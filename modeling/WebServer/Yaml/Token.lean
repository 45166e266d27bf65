import WebServer.Text.Split
import WebServer.Yaml.Scalar

/-!
# WebServer.Yaml.Token

The tokens of YAML texts, and the readers of the short ones: names, tags, and
directives.
-/

namespace WebServer

namespace Yaml

/-- The tokens. -/
inductive Token where
  | version (major minor : Nat)
  /-- A handle that tags may start with, and what it stands for. -/
  | handle (name text : List Char)
  | documentStart
  | documentEnd
  | blockSequence
  | blockMapping
  /-- The end of a block sequence or mapping. -/
  | blockEnd
  | flowSequence
  | flowSequenceEnd
  | flowMapping
  | flowMappingEnd
  /-- The dash of a block sequence. -/
  | entry
  /-- The comma between brackets. -/
  | comma
  | key
  | value
  | alias (name : List Char)
  | anchor (name : List Char)
  | tag (handle suffix : List Char)
  | scalar (style : Style) (text : List Char)
  | finish
deriving DecidableEq, Inhabited

/-! ## Names -/

/-- Reads a name and the text after it. -/
def name? (cs : List Char) : Option (List Char × List Char) :=
  let name := cs.takeWhile isNameChar
  if name.isEmpty then none else some (name, cs.drop name.length)

/-- Whether an anchor may end before the text. -/
def endsAnchor : List Char → Bool
  | [] => true
  | c :: _ => isSpacing c || "?:,]\x7d%@`".toList.contains c

/-- Reads the name of an anchor. -/
def anchorName? (cs : List Char) : Option (List Char × List Char) :=
  (name? cs).filter fun (_, rest) => endsAnchor rest

/-! ## Tags -/

/-- The characters of tags, apart from escapes; the last of them only where the
tag is written out. -/
def isTagChar (written : Bool) (c : Char) : Bool :=
  isNameChar c || ";/?:@&=+$.!~*'()".toList.contains c || (written && ",[]".toList.contains c)

/-- The octet that a percent sign and two hexadecimal digits name. -/
def octet? : List Char → Option (UInt8 × List Char)
  | '%' :: a :: b :: cs => (digits? 16 [a, b]).map fun n => (UInt8.ofNat n, cs)
  | _ => none

/-- The number of octets of a character, by its first one. -/
def octetCount? (b : UInt8) : Option Nat :=
  if b < 0x80 then some 1
  else if b &&& 0xE0 = 0xC0 then some 2
  else if b &&& 0xF0 = 0xE0 then some 3
  else if b &&& 0xF8 = 0xF0 then some 4
  else none

/-- Reads `n` more octets of a character. -/
def moreOctets : Nat → List Char → Option (Bytes × List Char)
  | 0, cs => some ([], cs)
  | n + 1, cs => do
      let (b, cs) ← octet? cs
      if b &&& 0xC0 ≠ 0x80 then none
      let (bs, cs) ← moreOctets n cs
      return (b :: bs, cs)

/-- Reads an escaped character; one that does not exist is replaced. -/
def octets? (cs : List Char) : Option (List Char × List Char) := do
  let (b, cs) ← octet? cs
  let n ← octetCount? b
  let (bs, cs) ← moreOctets (n - 1) cs
  return (((text? (b :: bs)).elim ['\ufffd'] (·.toList)), cs)

/-- The characters of a tag, and the text after them. -/
def tagCharsFrom (written : Bool) : Nat → List Char → Option (List Char × List Char)
  | 0, cs => some ([], cs)
  | fuel + 1, cs =>
      match cs with
      | [] => some ([], [])
      | c :: rest =>
          if c == '%' then do
            let (decoded, rest) ← octets? cs
            let (more, rest) ← tagCharsFrom written fuel rest
            return (decoded ++ more, rest)
          else if isTagChar written c then
            (tagCharsFrom written fuel rest).map fun (more, rest) => (c :: more, rest)
          else some ([], cs)

/-- Reads the characters of a tag. -/
def tagChars? (written : Bool) (cs : List Char) : Option (List Char × List Char) :=
  tagCharsFrom written cs.length cs

/-- Reads a handle: an exclamation mark, a name, and a second mark, if it
follows. -/
def handle? : List Char → Option (List Char × List Char)
  | '!' :: cs =>
      let name := cs.takeWhile isNameChar
      match cs.drop name.length with
      | '!' :: rest => some ('!' :: name ++ ['!'], rest)
      | rest => some ('!' :: name, rest)
  | _ => none

/-- Reads the handle and the suffix of a tag. -/
def tagParts? (cs : List Char) : Option (List Char × List Char × List Char) := do
  match cs with
  | '!' :: '<' :: rest =>
      let (text, rest) ← tagChars? true rest
      match text, rest with
      | _ :: _, '>' :: rest => return ([], text, rest)
      | _, _ => none
  | _ =>
      let (handle, rest) ← handle? cs
      let (suffix, rest) ← tagChars? false rest
      if 2 ≤ handle.length && handle.getLast? == some '!' then
        if suffix.isEmpty then none else return (handle, suffix, rest)
      else
        let suffix := handle.drop 1 ++ suffix
        if suffix.isEmpty then return ([], ['!'], rest) else return (['!'], suffix, rest)

/-- Reads a tag. -/
def tag? (inFlow : Bool) (cs : List Char) : Option (Token × List Char) := do
  let (handle, suffix, rest) ← tagParts? cs
  if endsWord rest || (inFlow && rest.head? == some ',') then return (.tag handle suffix, rest)
  else none

/-! ## Directives -/

/-- Reads a part of a version number, of at most nine digits. -/
def versionPart? (cs : List Char) : Option (Nat × List Char) := do
  let digits := cs.takeWhile Char.isDigit
  if 9 < digits.length then none
  return (← digits? 10 digits, cs.drop digits.length)

/-- Reads a version number. -/
def version? (cs : List Char) : Option (Token × List Char) := do
  let (major, rest) ← versionPart? cs
  match rest with
  | '.' :: rest =>
      let (minor, rest) ← versionPart? rest
      return (.version major minor, rest)
  | _ => none

/-- Reads a handle and what it stands for. -/
def handleText? (cs : List Char) : Option (Token × List Char) := do
  let (name, rest) ← handle? cs
  if name ≠ ['!'] && (name.length < 2 || name.getLast? ≠ some '!') then none
  if !rest.head?.any isGap then none
  let (text, rest) ← tagChars? true (rest.dropWhile isGap)
  if text.isEmpty || !endsWord rest then none
  return (.handle name text, rest)

/-- Reads a directive from after its percent sign, to the end of its line. -/
def directive? (cs : List Char) : Option (Token × List Char) := do
  let (name, rest) ← name? cs
  if !endsWord rest then none
  let rest := rest.dropWhile isGap
  let (token, rest) ←
    match String.ofList name with
    | "YAML" => version? rest
    | "TAG" => handleText? rest
    | _ => none
  return (token, ← restOfLine? rest)

end Yaml

end WebServer
