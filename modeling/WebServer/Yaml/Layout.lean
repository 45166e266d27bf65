import WebServer.Yaml.Token

/-!
# WebServer.Yaml.Layout

The tokens of a whole text. Indentation opens and closes block collections, and
a token that a colon follows turns out to be a key only then: until that is known
its place among the tokens is remembered.
-/

namespace WebServer

namespace Yaml

/-- A place in a text: what is left of it, and where that stands. -/
structure Place where
  rest : List Char
  /-- The number of bytes before it. -/
  index : Nat := 0
  line : Nat := 0
  col : Nat := 0
deriving Inhabited

/-- The place `n` characters further on. -/
def Place.advance (p : Place) (n : Nat) : Place :=
  let passed := p.rest.take n
  { rest := p.rest.drop n
    index := passed.foldl (fun i c => i + c.utf8Size) p.index
    line := p.line + passed.countP isBreak
    col := columnAfter p.col passed }

/-- The place at which `rest`, an end of the text, is left. -/
def Place.upTo (p : Place) (rest : List Char) : Place := p.advance (p.rest.length - rest.length)

/-- A token that may turn out to be a key. -/
structure Candidate where
  /-- Nothing else than a key may stand there. -/
  required : Bool
  /-- Its number among the tokens. -/
  number : Nat
  index : Nat
  line : Nat
  col : Nat
deriving Inhabited

/-- The tokens so far and what is known at a place. -/
structure Layout where
  place : Place
  tokens : Array Token := #[]
  /-- The columns of the open block collections, innermost first. -/
  blocks : List Nat := []
  /-- The candidate of the current brackets, and of those around them. -/
  current : Option Candidate := none
  outer : List (Option Candidate) := []
  /-- Whether a key may stand at the place. -/
  keyAllowed : Bool := true
deriving Inhabited

namespace Layout

/-- Whether the place is inside brackets. -/
def inFlow (s : Layout) : Bool := !s.outer.isEmpty

/-- One more than the column of the innermost block collection. -/
def parent (s : Layout) : Nat := s.blocks.head?.elim 0 (· + 1)

/-- Appends a token. -/
def push (s : Layout) (t : Token) : Layout := { s with tokens := s.tokens.push t }

/-- Appends a token that takes `n` characters. -/
def take (s : Layout) (n : Nat) (t : Token) : Layout :=
  { s.push t with place := s.place.advance n }

/-- Inserts a token before number `n`. -/
def insertAt (s : Layout) (n : Nat) (t : Token) : Layout :=
  { s with tokens := s.tokens.insertIdxIfInBounds n t }

/-- Opens a block collection at a column, unless one is open there; its token
gets number `n`. -/
def openBlock (s : Layout) (col n : Nat) (t : Token) : Layout :=
  if !s.inFlow && s.blocks.head?.all (· < col) then
    { s.insertAt n t with blocks := col :: s.blocks }
  else s

/-- Opens a block collection at the place. -/
def openHere (s : Layout) (t : Token) : Layout := s.openBlock s.place.col s.tokens.size t

/-- Closes the block collections for which `p` holds of their column, from the
innermost outwards. -/
def closeBlocks (s : Layout) (p : Nat → Bool) : Layout :=
  if s.inFlow then s
  else
    let closed := s.blocks.takeWhile p
    { s with
      tokens := s.tokens ++ (closed.map fun _ => Token.blockEnd)
      blocks := s.blocks.drop closed.length }

/-- Forgets the candidate; `none` if it had to be a key. -/
def dropCandidate (s : Layout) : Option Layout :=
  if s.current.any (·.required) then none else some { s with current := none }

/-- Remembers the next token as a candidate, if a key may stand here. -/
def mark (s : Layout) : Option Layout :=
  if s.keyAllowed then do
    let required := !s.inFlow && s.blocks.head? == some s.place.col
    let s ← s.dropCandidate
    return { s with
      current := some ⟨required, s.tokens.size, s.place.index, s.place.line, s.place.col⟩ }
  else some s

/-- The most bytes between the start of a key and its colon. -/
def keySpan : Nat := 1024

/-- Whether a candidate can no longer become a key: a key takes one line and at
most `keySpan` bytes. -/
def isStale (p : Place) (k : Candidate) : Bool :=
  k.line < p.line || k.index + keySpan < p.index

/-- Forgets stale candidates; `none` if one had to be a key. -/
def dropStale (s : Layout) : Option Layout :=
  let stale (k : Option Candidate) : Bool := k.any (isStale s.place)
  if (s.current :: s.outer).any fun k => stale k && k.any (·.required) then none
  else
    let fresh (k : Option Candidate) : Option Candidate := if stale k then none else k
    some { s with current := fresh s.current, outer := s.outer.map fresh }

/-- Goes to the next token, past gaps, comments, line breaks and a byte order mark
at the start of a line, which takes a column. A tab does not count as a gap where a
key may stand. -/
def skipTo : Nat → Layout → Layout
  | 0, s => s
  | fuel + 1, s =>
      match s.place.rest with
      | [] => s
      | c :: _ =>
          if (c == '\ufeff' && s.place.col = 0) || c == ' ' ||
              (c == '\t' && (s.inFlow || !s.keyAllowed)) then
            skipTo fuel { s with place := s.place.advance 1 }
          else if c == '#' then
            skipTo fuel
              { s with place := s.place.upTo (s.place.rest.dropWhile fun c => !isBreak c) }
          else if isBreak c then
            skipTo fuel
              { s with
                place := s.place.upTo (dropBreak s.place.rest)
                keyAllowed := s.keyAllowed || !s.inFlow }
          else s

/-! ## The tokens one by one -/

/-- Ends every block collection before a directive, a marker or the end. -/
def endBlocks (s : Layout) : Option Layout := do
  let s ← (s.closeBlocks fun _ => true).dropCandidate
  return { s with keyAllowed := false }

/-- An opening bracket. -/
def openFlow (s : Layout) (t : Token) : Option Layout := do
  let s ← s.mark
  return { s.take 1 t with outer := s.current :: s.outer, current := none, keyAllowed := true }

/-- A closing bracket. -/
def closeFlow (s : Layout) (t : Token) : Option Layout := do
  let s ← s.dropCandidate
  let s := s.take 1 t
  return { s with current := s.outer.head?.join, outer := s.outer.drop 1, keyAllowed := false }

/-- A comma. -/
def comma (s : Layout) : Option Layout := do
  let s ← s.dropCandidate
  return { s.take 1 .comma with keyAllowed := true }

/-- The dash of an entry. -/
def entry (s : Layout) : Option Layout := do
  if !s.inFlow && !s.keyAllowed then none
  let s ← (s.openHere .blockSequence).dropCandidate
  return { s.take 1 .entry with keyAllowed := true }

/-- The question mark of a key. -/
def key (s : Layout) : Option Layout := do
  if !s.inFlow && !s.keyAllowed then none
  let s ← (s.openHere .blockMapping).dropCandidate
  return { s.take 1 .key with keyAllowed := !s.inFlow }

/-- The colon of a value. The candidate, if there is one, was its key. -/
def value (s : Layout) : Option Layout :=
  match s.current with
  | some k =>
      let s := (s.insertAt k.number .key).openBlock k.col k.number .blockMapping
      some { s.take 1 .value with current := none, keyAllowed := false }
  | none =>
      if !s.inFlow && !s.keyAllowed then none
      else some { (s.openHere .blockMapping).take 1 .value with keyAllowed := !s.inFlow }

/-- A token that may be a key: after it no key may stand on the line. -/
def word (s : Layout) (read : List Char → Option (Token × List Char)) : Option Layout := do
  let s ← s.mark
  let (t, rest) ← read s.place.rest
  return { s.push t with place := s.place.upTo rest, keyAllowed := false }

/-- A plain scalar. -/
def plain (s : Layout) : Option Layout := do
  let s ← s.mark
  let p ← plain? s.inFlow s.parent s.place.col s.place.rest
  return { s.push (.scalar .plain p.text) with
    place := s.place.upTo p.rest
    keyAllowed := p.brokeLine }

/-- A block scalar. -/
def block (s : Layout) (style : Style) : Option Layout := do
  let s ← s.dropCandidate
  let b ← block? (style = .folded) s.parent (s.place.col + 1) (s.place.rest.drop 1)
  return { s.push (.scalar style b.text) with place := s.place.upTo b.rest, keyAllowed := true }

/-- The characters that no plain scalar starts with. -/
def isIndicator (c : Char) : Bool := "-?:,[]\x7b\x7d#&*!|>'\"%@`".toList.contains c

/-- Whether a plain scalar starts with the character before the text. -/
def startsPlain (s : Layout) (c : Char) (rest : List Char) : Bool :=
  (!isIndicator c && !isGap c) || (c == '-' && !rest.head?.any isGap) ||
    (!s.inFlow && (c == '?' || c == ':') && !endsWord rest)

/-- Reads the token that starts with `c`. -/
def next (s : Layout) (c : Char) (rest : List Char) : Option Layout :=
  let named (make : List Char → Token) (cs : List Char) : Option (Token × List Char) :=
    (anchorName? (cs.drop 1)).map fun (name, rest) => (make name, rest)
  let quoted (cs : List Char) : Option (Token × List Char) :=
    (quoted? (c == '"') (cs.drop 1)).map fun q => (.scalar .quoted q.text, q.rest)
  let atMark := s.inFlow || endsWord rest
  if s.place.col = 0 && c == '%' then do
    let s ← s.endBlocks
    let (t, rest) ← directive? rest
    return { s.push t with place := s.place.upTo rest }
  else if s.place.col = 0 && isMarker (c :: rest) then do
    let s ← s.endBlocks
    return s.take 3 (if c == '-' then .documentStart else .documentEnd)
  else if c == '[' then s.openFlow .flowSequence
  else if c == '{' then s.openFlow .flowMapping
  else if c == ']' then s.closeFlow .flowSequenceEnd
  else if c == '}' then s.closeFlow .flowMappingEnd
  else if c == ',' then s.comma
  else if c == '-' && endsWord rest then s.entry
  else if c == '?' && atMark then s.key
  else if c == ':' && atMark then s.value
  else if c == '*' then s.word (named .alias)
  else if c == '&' then s.word (named .anchor)
  else if c == '!' then s.word (tag? s.inFlow)
  else if c == '|' && !s.inFlow then s.block .literal
  else if c == '>' && !s.inFlow then s.block .folded
  else if c == '\'' || c == '"' then s.word quoted
  else if s.startsPlain c rest then s.plain
  else none

/-- Reads all tokens. Each takes a character, so their number is a bound. -/
def run : Nat → Layout → Option (Array Token)
  | 0, _ => none
  | fuel + 1, s => do
      let s ← (skipTo s.place.rest.length s).dropStale
      let s := s.closeBlocks (s.place.col < ·)
      match s.place.rest with
      | [] => return ((← s.endBlocks).push .finish).tokens
      | c :: rest => run fuel (← s.next c rest)

end Layout

/-- The tokens of a text, if it is well formed. -/
def Token.scan (text : List Char) : Option (List Token) :=
  if text.all isAllowed then
    (Layout.run (text.length + 1) { place := { rest := text } }).map Array.toList
  else none

end Yaml

end WebServer
