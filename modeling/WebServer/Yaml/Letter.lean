import WebServer.Bytes

/-!
# WebServer.Yaml.Letter

The characters of YAML texts by role: gaps inside a line, line breaks, the
characters of names, and the markers between documents. A run of gaps and
breaks inside a scalar stands for what `fold` makes of it.

Main statement: `breaks` holds no gap, and a run without a break folds to
itself (`fold_of_no_break`).
-/

namespace WebServer

namespace Yaml

/-- Spaces and tabs. -/
def isGap (c : Char) : Bool := c == ' ' || c == '\t'

/-- Line breaks that are read as a line feed. -/
def isPlainBreak (c : Char) : Bool := c == '\r' || c == '\n' || c == '\x85'

/-- Line breaks that are kept as they are: line and paragraph separators. -/
def isKeptBreak (c : Char) : Bool := c == '\u2028' || c == '\u2029'

/-- Line breaks. -/
def isBreak (c : Char) : Bool := isPlainBreak c || isKeptBreak c

/-- Gaps and line breaks. -/
def isSpacing (c : Char) : Bool := isGap c || isBreak c

/-- The characters that a document may hold. -/
def isAllowed (c : Char) : Bool :=
  let n := c.toNat
  n == 9 || n == 10 || n == 13 || (0x20 ≤ n && n ≤ 0x7E) || n == 0x85 ||
    (0xA0 ≤ n && n ≤ 0xD7FF) || (0xE000 ≤ n && n ≤ 0xFFFD) || 0x10000 ≤ n

/-- The characters of anchors, handles and directives. -/
def isNameChar (c : Char) : Bool := c.isAlphanum || c == '_' || c == '-'

/-- Whether a word ends before the text. -/
def endsWord : List Char → Bool
  | [] => true
  | c :: _ => isSpacing c

/-- Whether the text starts with a marker that begins or ends a document. -/
def isMarker : List Char → Bool
  | '-' :: '-' :: '-' :: rest | '.' :: '.' :: '.' :: rest => endsWord rest
  | _ => false

/-- The line breaks of a text, as they are read. -/
def breaks : List Char → List Char
  | [] => []
  | '\r' :: '\n' :: rest => '\n' :: breaks rest
  | c :: rest =>
      if isPlainBreak c then '\n' :: breaks rest
      else if isKeptBreak c then c :: breaks rest
      else breaks rest

/-- What a run of gaps and breaks inside a scalar stands for: without a break
itself, with one a space, and with more the breaks after the first. -/
def fold (run : List Char) : List Char :=
  match breaks run with
  | [] => run
  | ['\n'] => [' ']
  | '\n' :: more => more
  | kept => kept

/-- The text after one line break. -/
def dropBreak : List Char → List Char
  | '\r' :: '\n' :: rest => rest
  | c :: rest => if isBreak c then rest else c :: rest
  | [] => []

/-- The first line break of a text that starts with one, as it is read. -/
def firstBreak (cs : List Char) : List Char :=
  if cs.head?.any isBreak then (breaks cs).take 1 else []

/-- The column after a text that starts in column `col`. -/
def columnAfter (col : Nat) (cs : List Char) : Nat :=
  cs.foldl (fun col c => if isBreak c then 0 else col + 1) col

theorem breaks_eq_nil_of_no_break {cs : List Char} (h : ∀ c ∈ cs, isBreak c = false) :
    breaks cs = [] := by
  induction cs using breaks.induct with
  | case1 => rfl
  | case2 rest _ => simp [isBreak, isPlainBreak] at h
  | case3 c rest _ hc _ => simp_all [isBreak]
  | case4 c rest _ _ hc _ => simp_all [isBreak]
  | case5 c rest hne hp hk ih =>
      rw [breaks]
      · simp only [hp, hk]
        exact ih fun d hd => h d (List.mem_cons_of_mem _ hd)
      · exact hne

/-- A run without a break stands for itself. -/
theorem fold_of_no_break {cs : List Char} (h : ∀ c ∈ cs, isBreak c = false) : fold cs = cs := by
  simp [fold, breaks_eq_nil_of_no_break h]

end Yaml

end WebServer
