import WebServer.Text.Number
import WebServer.Yaml.Letter

/-!
# WebServer.Yaml.Scalar

The texts of scalars: plain ones, quoted ones, and the literal and folded blocks.
Each reader takes the text at the scalar and answers what it stands for and what
comes after it; `none` means that the text is malformed.
-/

namespace WebServer

namespace Yaml

/-- How a scalar is written. -/
inductive Style where
  | plain | quoted | literal | folded
deriving DecidableEq, Inhabited

/-- A scalar that was read, and the text after it. -/
structure Scanned where
  text : List Char
  rest : List Char
deriving DecidableEq

/-! ## Plain scalars -/

/-- The characters that end a plain scalar inside brackets. -/
def isFlowMark (c : Char) : Bool := c == ',' || c == '[' || c == ']' || c == '{' || c == '}'

/-- Whether a plain scalar ends before the text. -/
def endsPlain (inFlow : Bool) : List Char → Bool
  | [] => true
  | ':' :: rest => endsWord rest
  | c :: _ => isSpacing c || (inFlow && isFlowMark c)

/-- Whether a colon stands where a plain scalar inside brackets may not hold one. -/
def isStrayColon (inFlow : Bool) : List Char → Bool
  | ':' :: c :: _ => inFlow && (isFlowMark c || c == '?')
  | _ => false

/-- A word of a plain scalar. -/
def plainWord (inFlow : Bool) : List Char → Option Scanned
  | [] => some ⟨[], []⟩
  | c :: cs =>
      if isStrayColon inFlow (c :: cs) then none
      else if endsPlain inFlow (c :: cs) then some ⟨[], c :: cs⟩
      else (plainWord inFlow cs).map fun s => { s with text := c :: s.text }

/-- Whether a tab stands left of the column `indent` on a line of its own; `col`
is the column, unknown before the first break. -/
def hasStrayTab (indent : Nat) : Option Nat → List Char → Bool
  | _, [] => false
  | col, c :: cs =>
      if isBreak c then hasStrayTab indent (some 0) cs
      else
        (c == '\t' && col.any (· < indent)) || hasStrayTab indent (col.map (· + 1)) cs

/-- A plain scalar, and whether a line break follows it. -/
structure Plain extends Scanned where
  brokeLine : Bool
deriving DecidableEq

/-- The words of a plain scalar from column `col` on. The text so far is `done`;
`gap` joins it to the next word. -/
def plainFrom (inFlow : Bool) (indent : Nat) :
    Nat → (col : Nat) → (done gap : List Char) → (broke : Bool) → List Char → Option Plain
  | 0, _, done, _, broke, cs => some ⟨⟨done, cs⟩, broke⟩
  | fuel + 1, col, done, gap, broke, cs =>
      if (col = 0 && isMarker cs) || cs.head? == some '#' then some ⟨⟨done, cs⟩, broke⟩
      else
        match plainWord inFlow cs with
        | none => none
        | some ⟨[], rest⟩ => some ⟨⟨done, rest⟩, broke⟩
        | some ⟨word, rest⟩ =>
            let done := done ++ gap ++ word
            let run := rest.takeWhile isSpacing
            let rest := rest.drop run.length
            let col := columnAfter (col + word.length) run
            if run.isEmpty then some ⟨⟨done, rest⟩, false⟩
            else if hasStrayTab indent none run then none
            else if !inFlow && col < indent then some ⟨⟨done, rest⟩, run.any isBreak⟩
            else plainFrom inFlow indent fuel col done (fold run) (run.any isBreak) rest

/-- Reads a plain scalar that starts in column `col`. Its lines stand in column
`indent` or further right. Each word has a character, so their number is
bounded. -/
def plain? (inFlow : Bool) (indent col : Nat) (cs : List Char) : Option Plain :=
  plainFrom inFlow indent (cs.length + 1) col [] [] false cs

/-! ## Quoted scalars -/

/-- The escapes of one letter. -/
def letterEscape : Char → Option Char
  | '0' => some '\x00'
  | 'a' => some '\x07'
  | 'b' => some '\x08'
  | 't' | '\t' => some '\t'
  | 'n' => some '\n'
  | 'v' => some '\x0b'
  | 'f' => some '\x0c'
  | 'r' => some '\r'
  | 'e' => some '\x1b'
  | ' ' => some ' '
  | '"' => some '"'
  | '/' => some '/'
  | '\\' => some '\\'
  | 'N' => some '\x85'
  | '_' => some '\xa0'
  | 'L' => some '\u2028'
  | 'P' => some '\u2029'
  | _ => none

/-- The character that `n` hexadecimal digits name. -/
def codeEscape (n : Nat) (cs : List Char) : Option (Char × List Char) := do
  let digits := cs.take n
  if digits.length < n then none
  let code ← digits? 16 digits
  if code.isValidChar then return (Char.ofNat code, cs.drop n) else none

/-- The character that stands after a backslash, and the text after it. -/
def escape? : List Char → Option (Char × List Char)
  | 'x' :: cs => codeEscape 2 cs
  | 'u' :: cs => codeEscape 4 cs
  | 'U' :: cs => codeEscape 8 cs
  | c :: cs => (letterEscape c).map fun d => (d, cs)
  | [] => none

/-- What a run between the words of a quoted scalar stands for. After an escaped
break only the further breaks count. -/
def joint (escaped : Bool) (run : List Char) : List Char :=
  if escaped then breaks run else fold run

/-- The rest of a quoted scalar, up to its closing quote. The text so far is
`done`, and `run` the run of gaps and breaks before the text, both with the last
character first. -/
def quotedFrom (double : Bool) :
    Nat → (done run : List Char) → (escaped : Bool) → List Char → Option Scanned
  | 0, _, _, _, _ => none
  | _, _, _, _, [] => none
  | fuel + 1, done, run, escaped, c :: cs =>
      if isSpacing c then quotedFrom double fuel done (c :: run) escaped cs
      else if run.head?.elim escaped isBreak && isMarker (c :: cs) then none
      else
        let joined := (joint escaped run.reverse).reverse ++ done
        if double && c == '"' then some ⟨joined.reverse, cs⟩
        else if double && c == '\\' then
          if cs.head?.any isBreak then quotedFrom double fuel joined [] true (dropBreak cs)
          else
            match escape? cs with
            | some (d, rest) => quotedFrom double fuel (d :: joined) [] false rest
            | none => none
        else if !double && c == '\'' then
          match cs with
          | '\'' :: rest => quotedFrom double fuel ('\'' :: joined) [] false rest
          | _ => some ⟨joined.reverse, cs⟩
        else quotedFrom double fuel (c :: joined) [] false cs

/-- Reads a quoted scalar, from after its opening quote. Each step takes a
character, so their number is a bound. -/
def quoted? (double : Bool) (cs : List Char) : Option Scanned :=
  quotedFrom double (cs.length + 1) [] [] false cs

/-! ## Block scalars -/

/-- What becomes of the line breaks at the end of a block. -/
inductive Chomping where
  | strip | clip | keep
deriving DecidableEq, Inhabited

/-- The indicators at the head of a block. -/
structure BlockHead where
  chomping : Chomping := .clip
  /-- The indentation that is given, if any. -/
  indent : Option Nat := none
deriving DecidableEq, Inhabited

/-- The chomping indicator. -/
def chomping? : Char → Option Chomping
  | '-' => some .strip
  | '+' => some .keep
  | _ => none

/-- Reads one indicator; a digit zero is none, and neither comes twice. -/
def headMark? (h : BlockHead) (c : Char) : Option BlockHead :=
  match chomping? c, digitIn? 10 c with
  | some k, _ => if h.chomping = .clip then some { h with chomping := k } else none
  | none, some d => if h.indent.isNone && d ≠ 0 then some { h with indent := some d } else none
  | none, none => none

/-- Reads the indicators at the head of a block. -/
def blockMarks : List Char → BlockHead × List Char
  | a :: b :: cs =>
      match headMark? {} a with
      | none => ({}, a :: b :: cs)
      | some h => (headMark? h b).elim (h, b :: cs) fun h => (h, cs)
  | [a] => (headMark? {} a).elim ({}, [a]) fun h => (h, [])
  | [] => ({}, [])

/-- The text after gaps, a comment and the line break behind them; `none` if
anything else stands there. -/
def restOfLine? (cs : List Char) : Option (List Char) :=
  let cs := cs.dropWhile isGap
  let cs := if cs.head? == some '#' then cs.dropWhile fun c => !isBreak c else cs
  match cs with
  | [] => some []
  | c :: _ => if isBreak c then some (dropBreak cs) else none

/-- Empty lines, and the indentation of the line after them. -/
structure EmptyLines where
  breaks : List Char
  /-- The column of the text, and the furthest column reached. -/
  col : Nat
  furthest : Nat
  rest : List Char
deriving DecidableEq

/-- Skips empty lines, and indentation up to the column `indent`, if it is known
already. A tab that stands for indentation is malformed. -/
def emptyLinesFrom (indent : Option Nat) :
    Nat → (found : List Char) → (col furthest : Nat) → List Char → Option EmptyLines
  | 0, found, col, furthest, cs => some ⟨found, col, furthest, cs⟩
  | fuel + 1, found, col, furthest, cs =>
      let open_ := indent.all (col < ·)
      match cs with
      | [] => some ⟨found, col, max col furthest, []⟩
      | c :: rest =>
          if open_ && c == ' ' then emptyLinesFrom indent fuel found (col + 1) furthest rest
          else if open_ && c == '\t' then none
          else if isBreak c then
            emptyLinesFrom indent fuel (found ++ firstBreak cs) 0 (max col furthest) (dropBreak cs)
          else some ⟨found, col, max col furthest, cs⟩

/-- Skips empty lines from column `col` on. -/
def emptyLines? (indent : Option Nat) (col : Nat) (cs : List Char) : Option EmptyLines :=
  emptyLinesFrom indent (cs.length + 1) [] col 0 cs

/-- The lines of a block at column `indent`. The text so far is `done`, the break
of the last line `last`, and `afterGap` tells that it started with a gap. -/
def blockFrom (isFolded : Bool) (indent : Nat) :
    Nat → (done last : List Char) → (afterGap : Bool) → EmptyLines →
      Option (List Char × List Char × EmptyLines)
  | 0, done, last, _, e => some (done, last, e)
  | fuel + 1, done, last, afterGap, e =>
      if e.col ≠ indent || e.rest.isEmpty then some (done, last, e)
      else
        let onGap := e.rest.head?.any isGap
        let glue :=
          if isFolded && last == ['\n'] && !afterGap && !onGap then
            if e.breaks.isEmpty then [' '] else e.breaks
          else last ++ e.breaks
        let line := e.rest.takeWhile fun c => !isBreak c
        let rest := e.rest.drop line.length
        let col := if rest.isEmpty then indent + line.length else 0
        match emptyLines? (some indent) col (dropBreak rest) with
        | none => none
        | some next =>
            blockFrom isFolded indent fuel (done ++ glue ++ line) (firstBreak rest) onGap next

/-- Reads a block scalar from after its first indicator, which stands in column
`col`; `parent` is one more than the column of the collection around it. The text
after it stands in the given column. -/
def block? (isFolded : Bool) (parent col : Nat) (cs : List Char) : Option Scanned := do
  let (head, rest) := blockMarks cs
  let rest ← restOfLine? rest
  let col := if rest.isEmpty then col else 0
  let given := head.indent.map fun n => if parent = 0 then n else parent - 1 + n
  let first ← emptyLines? given col rest
  let indent := given.getD (max first.furthest (max parent 1))
  let (done, last, after) ← blockFrom isFolded indent (rest.length + 1) [] [] false first
  let tail := match head.chomping with
    | .strip => []
    | .clip => last
    | .keep => last ++ after.breaks
  return ⟨done ++ tail, after.rest⟩

end Yaml

end WebServer
