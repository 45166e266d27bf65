import WebServer.Unicode.Combining
import WebServer.Unicode.Decomposition

/-!
# WebServer.Unicode.Normal

Composed text (normalization form C): characters are taken apart, the marks
behind each letter are put in the order of their classes, and letters are put
together with the marks that follow them. Texts that look the same become the
same.

Main statement: text of characters below U+00C0 is composed already
(`normalize_of_plain`).
-/

namespace WebServer

namespace Unicode

/-- Marks in the order of their classes; those of one class keep their order. -/
def sortMarks (marks : List Char) : List Char :=
  marks.mergeSort fun a b => combiningClass a ≤ combiningClass b

/-- Puts each run of marks in order; `run` has the marks just read, latest first. -/
def orderFrom (run : List Char) : List Char → List Char
  | [] => sortMarks run.reverse
  | c :: cs =>
      if combiningClass c = 0 then sortMarks run.reverse ++ c :: orderFrom [] cs
      else orderFrom (c :: run) cs

/-- Puts each run of marks in order. -/
def orderMarks (cs : List Char) : List Char := orderFrom [] cs

/-- Composes a text behind the letter `base`. The marks that have not become part
of it are in `marks`, latest first. A mark does not reach the letter over one of
its own class or a higher one. -/
def composeFrom (base : Char) (marks : List Char) : List Char → List Char
  | [] => base :: marks.reverse
  | c :: cs =>
      let k := combiningClass c
      let blocked := marks.head?.any fun m => k ≤ combiningClass m
      match if blocked then none else compose? base c with
      | some b => composeFrom b marks cs
      | none =>
          if k = 0 then base :: marks.reverse ++ composeFrom c [] cs
          else composeFrom base (c :: marks) cs

/-- Composes a text whose marks are in order. -/
def compose (cs : List Char) : List Char :=
  match cs.dropWhile (combiningClass · != 0) with
  | [] => cs
  | base :: rest => cs.takeWhile (combiningClass · != 0) ++ composeFrom base [] rest

/-- The composed form of a text. -/
def normalize (cs : List Char) : List Char := compose (orderMarks (cs.flatMap decompose))

/-! ## Plain text -/

/-- Whether a character is one of those that are nothing but themselves. -/
def isPlain (c : Char) : Bool := c.toNat < 0xC0

theorem combiningClass_of_isPlain {c : Char} (h : isPlain c) : combiningClass c = 0 := by
  unfold combiningClass
  exact if_pos (by simp only [isPlain, decide_eq_true_eq] at h; omega)

theorem decompose_of_isPlain {c : Char} (h : isPlain c) : decompose c = [c] := by
  have : parts? c = none := if_pos (by simpa [isPlain] using h)
  simp [decompose, partsWithin, this]

theorem compose?_of_isPlain {a b : Char} (h : isPlain b) : compose? a b = none := by
  unfold compose?
  exact if_pos (by simp only [isPlain, decide_eq_true_eq] at h; omega)

theorem flatMap_decompose_of_plain {cs : List Char} (h : ∀ c ∈ cs, isPlain c) :
    cs.flatMap decompose = cs := by
  induction cs with
  | nil => rfl
  | cons c cs ih =>
      rw [List.flatMap_cons, decompose_of_isPlain (h c (by simp)),
        ih fun d hd => h d (by simp [hd])]
      rfl

theorem orderMarks_of_plain {cs : List Char} (h : ∀ c ∈ cs, isPlain c) :
    orderMarks cs = cs := by
  unfold orderMarks
  induction cs with
  | nil => simp [orderFrom, sortMarks]
  | cons c cs ih =>
      simp [orderFrom, sortMarks, combiningClass_of_isPlain (h c (by simp)),
        ih fun d hd => h d (by simp [hd])]

theorem composeFrom_of_plain {base : Char} {cs : List Char} (h : ∀ c ∈ cs, isPlain c) :
    composeFrom base [] cs = base :: cs := by
  induction cs generalizing base with
  | nil => rfl
  | cons c cs ih =>
      have hc : isPlain c := h c (by simp)
      simp [composeFrom, compose?_of_isPlain hc, combiningClass_of_isPlain hc,
        ih fun d hd => h d (by simp [hd])]

/-- Plain text is composed already. -/
theorem normalize_of_plain {cs : List Char} (h : ∀ c ∈ cs, isPlain c) : normalize cs = cs := by
  unfold normalize
  rw [flatMap_decompose_of_plain h, orderMarks_of_plain h]
  unfold compose
  cases cs with
  | nil => rfl
  | cons c cs =>
      have hc := combiningClass_of_isPlain (h c (by simp))
      have hcs : ∀ d ∈ cs, isPlain d := fun d hd => h d (by simp [hd])
      simp [hc, composeFrom_of_plain hcs]

end Unicode

end WebServer
