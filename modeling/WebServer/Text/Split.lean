/-!
# WebServer.Text.Split

Cutting texts at separators: at the first or last occurrence of a character,
and at every line end. Case-insensitive comparison of ASCII names is here too.

Main statement: a text cut at a separator is the two parts joined by it
(`eq_of_splitOnce`), and the first part does not hold the separator.
-/

namespace WebServer

/-! ## Cutting at one character -/

/-- The parts before and after the first `sep`. -/
def splitOnce (sep : Char) : List Char → Option (List Char × List Char)
  | [] => none
  | c :: cs =>
      if c = sep then some ([], cs)
      else (splitOnce sep cs).map fun (a, b) => (c :: a, b)

/-- The parts before and after the last `sep`. -/
def splitOnceLast (sep : Char) (cs : List Char) : Option (List Char × List Char) :=
  (splitOnce sep cs.reverse).map fun (a, b) => (b.reverse, a.reverse)

/-- The cut is at a separator, and at the first one. -/
theorem splitOnce_eq_some_iff {sep : Char} {cs a b : List Char} :
    splitOnce sep cs = some (a, b) ↔ cs = a ++ sep :: b ∧ sep ∉ a := by
  induction cs generalizing a with
  | nil => simp [splitOnce]
  | cons c cs ih =>
      unfold splitOnce
      split
      · next h =>
          subst h
          constructor
          · rintro h
            simp only [Option.some.injEq, Prod.mk.injEq] at h
            simp [← h.1, h.2]
          · rintro ⟨h1, h2⟩
            cases a with
            | nil => simp_all
            | cons x xs =>
                simp only [List.cons_append, List.cons.injEq] at h1
                simp [h1.1] at h2
      · next h =>
          simp only [Option.map_eq_some_iff, Prod.mk.injEq, Prod.exists]
          constructor
          · rintro ⟨a', b', he, rfl, rfl⟩
            obtain ⟨h1, h2⟩ := ih.1 he
            refine ⟨by rw [h1]; rfl, ?_⟩
            simp only [List.mem_cons, not_or]
            exact ⟨fun hc => h hc.symm, h2⟩
          · rintro ⟨h1, h2⟩
            cases a with
            | nil => simp_all
            | cons x xs =>
                simp only [List.cons_append, List.cons.injEq] at h1
                simp only [List.mem_cons, not_or] at h2
                exact ⟨xs, b, ih.2 ⟨h1.2, h2.2⟩, by simp [h1.1], rfl⟩

/-- There is a cut exactly when the separator occurs. -/
theorem splitOnce_eq_none_iff {sep : Char} {cs : List Char} :
    splitOnce sep cs = none ↔ sep ∉ cs := by
  induction cs with
  | nil => simp [splitOnce]
  | cons c cs ih =>
      unfold splitOnce
      split
      · next h => simp [h]
      · next h =>
          rw [Option.map_eq_none_iff, ih]
          simp only [List.mem_cons, not_or]
          exact ⟨fun h' => ⟨fun hc => h hc.symm, h'⟩, fun h' => h'.2⟩

/-! ## Lines -/

/-- The lines of a text in which CR LF ends a line, where `acc` holds the
current line so far, last character first. -/
def linesFrom : List Char → List Char → List (List Char)
  | acc, [] => [acc.reverse]
  | acc, '\r' :: '\n' :: cs => acc.reverse :: linesFrom [] cs
  | acc, c :: cs => linesFrom (c :: acc) cs

/-- The pieces of a text between its CR LF pairs. -/
def crlfLines (cs : List Char) : List (List Char) := linesFrom [] cs

/-! ## Names -/

/-- A name as it is compared: ASCII letters in lower case. -/
def foldCase (cs : List Char) : List Char := cs.map Char.toLower

/-- Whether two names agree up to the case of ASCII letters. -/
def sameName (a b : String) : Bool := foldCase a.toList == foldCase b.toList

@[simp] theorem sameName_refl (a : String) : sameName a a = true := by simp [sameName]

theorem sameName_comm (a b : String) : sameName a b = sameName b a := by
  simp [sameName, Bool.beq_comm]

theorem sameName_trans {a b c : String} (h : sameName a b = true) (h' : sameName b c = true) :
    sameName a c = true := by
  simp only [sameName, beq_iff_eq] at *
  exact h.trans h'

end WebServer
