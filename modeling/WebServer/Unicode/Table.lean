import WebServer.Text.Number

/-!
# WebServer.Unicode.Table

Tables of characters: spans of code points, in increasing order, each with a
value. A table is written as lines of entries between blanks; an entry is a code
point or a span `first-last`, and may give its value behind a colon. All numbers
are hexadecimal.

Main statement: what a look-up finds is a span of the table that holds the code
point (`mem_of_find?_eq_some`).
-/

namespace WebServer

namespace Unicode

/-- Consecutive code points with one value. -/
structure Span (α : Type) where
  first : Nat
  last : Nat
  value : α
deriving Inhabited

/-- Spans in increasing order. -/
structure Table (α : Type) where
  spans : Array (Span α)
deriving Inhabited

namespace Span

/-- Whether a code point is in a span. -/
def holds (s : Span α) (n : Nat) : Bool := s.first ≤ n && n ≤ s.last

end Span

/-! ## Look-up -/

namespace Table

/-- Looks for a code point among the spans from `lo` up to `hi`, exclusive. -/
def search (t : Table α) (n lo hi : Nat) : Option (Span α) :=
  if lo < hi then
    let mid := (lo + hi) / 2
    match t.spans[mid]? with
    | none => none
    | some s =>
        if n < s.first then t.search n lo mid
        else if s.last < n then t.search n (mid + 1) hi
        else some s
  else none
termination_by hi - lo

/-- The span that holds a code point. -/
def find? (t : Table α) (n : Nat) : Option (Span α) := t.search n 0 t.spans.size

/-- The value of a code point. -/
def value? (t : Table α) (n : Nat) : Option α := (t.find? n).map (·.value)

/-- Whether a character is in a table. -/
def contains (t : Table α) (c : Char) : Bool := (t.find? c.toNat).isSome

theorem mem_of_search_eq_some {t : Table α} {n lo hi : Nat} {s : Span α}
    (h : t.search n lo hi = some s) : s ∈ t.spans ∧ s.holds n := by
  fun_induction Table.search t n lo hi with
  | case1 => cases h
  | case2 lo hi hlt mid s' hs hn ih => exact ih h
  | case3 lo hi hlt mid s' hs hn hl ih => exact ih h
  | case4 lo hi hlt mid s' hs hn hl =>
      obtain rfl := Option.some.inj h
      refine ⟨Array.mem_of_getElem? hs, ?_⟩
      simp only [Span.holds, Bool.and_eq_true, decide_eq_true_eq]
      omega
  | case5 => cases h

/-- What a look-up finds is in the table and holds the code point. -/
theorem mem_of_find?_eq_some {t : Table α} {n : Nat} {s : Span α} (h : t.find? n = some s) :
    s ∈ t.spans ∧ s.holds n :=
  mem_of_search_eq_some h

/-! ## Reading -/

/-- The span of an entry, whose value `read` takes from the text behind the
colon. -/
def spanOf? (read : List Char → Option α) (cs : List Char) : Option (Span α) := do
  let (place, value) :=
    match cs.splitOn ':' with
    | [place, value] => (place, value)
    | _ => (cs, [])
  let (first, last) :=
    match place.splitOn '-' with
    | [first, last] => (first, last)
    | _ => (place, place)
  return ⟨← digits? 16 first, ← digits? 16 last, ← read value⟩

/-- The spans that lines of text write. -/
def spansOf (read : List Char → Option α) (lines : List String) : List (Span α) :=
  lines.flatMap fun line => (line.toList.splitOn ' ').filterMap (spanOf? read)

/-- Reads a table from lines in increasing order. -/
def ofLines (read : List Char → Option α) (lines : List String) : Table α :=
  ⟨(spansOf read lines).toArray⟩

/-- Reads a table of one property. -/
def ofSet (lines : List String) : Table Unit := ofLines (fun _ => some ()) lines

/-- Reads a table that has one group of lines for each value. -/
def ofGroups (groups : List (α × List String)) : Table α :=
  let spans := groups.flatMap fun (a, lines) => spansOf (fun _ => some a) lines
  ⟨(spans.mergeSort fun s r => s.first ≤ r.first).toArray⟩

end Table

/-- Reads code points between dots. -/
def charsOf? (cs : List Char) : Option (List Char) :=
  (cs.splitOn '.').mapM fun ds => (digits? 16 ds).map Char.ofNat

end Unicode

end WebServer
