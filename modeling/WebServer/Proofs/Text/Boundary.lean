import Mathlib.Data.Nat.Find
import WebServer.Proofs.Text.Line
import WebServer.Text.Boundary

/-!
# WebServer.Proofs.Text.Boundary

Where the characters of a text begin in its bytes. The first byte of a character continues none
and all others do (`exists_utf8EncodeChar_eq`), so an offset passes the test on its byte exactly if
a beginning of the text ends there (`isBoundary_utf8_iff`). Going back from an offset passes none of
these by (`backToBoundary?_eq`). So it ends behind the longest beginning that reaches no further
(`IsLongestCut.backToBoundary?_eq`), after three bytes at most.
-/

namespace WebServer

variable {bs : Bytes} {i n k : Nat} {s cut : String}

/-! ## Bytes of a character -/

theorem isContinuation_iff {b : UInt8} :
    isContinuation b = true ↔ 128 ≤ b.toNat ∧ b.toNat < 192 := by
  simp only [isContinuation, Bool.and_eq_true, decide_eq_true_eq, UInt8.le_iff_toNat_le]
  exact and_congr_right fun _ => Nat.lt_succ_iff.symm

/-- The first byte of a character continues none, and all others do. -/
theorem exists_utf8EncodeChar_eq (c : Char) :
    ∃ b bs, String.utf8EncodeChar c = b :: bs ∧ isContinuation b = false ∧
      ∀ x ∈ bs, isContinuation x = true := by
  have hnone : ∀ {b : UInt8}, b.toNat < 128 ∨ 192 ≤ b.toNat → isContinuation b = false := by
    intro b hb
    rw [← Bool.not_eq_true, isContinuation_iff]
    omega
  rcases utf8EncodeChar_cases c with ⟨hc, hbytes⟩ | ⟨b, bs, hbytes, hfirst, hothers⟩
  · have hlt : c.val.toUInt8.toNat < 128 := by rwa [toNat_toUInt8_val hc]
    exact ⟨_, [], hbytes, hnone (.inl hlt), fun x hx => absurd hx List.not_mem_nil⟩
  · exact ⟨b, bs, hbytes, hnone (.inr hfirst), fun x hx => isContinuation_iff.2 (hothers x hx)⟩

/-! ## Boundaries -/

/-- No text begins inside of a character. -/
theorem isContinuation_of_getElem?_zero {cs : List Char} {b : UInt8}
    (hb : (utf8 (String.ofList cs))[0]? = some b) : isContinuation b = false := by
  cases cs with
  | nil => cases hb
  | cons c cs =>
      obtain ⟨b', bs, hc, hfirst, _⟩ := exists_utf8EncodeChar_eq c
      rw [utf8_ofList, List.flatMap_cons, hc, List.cons_append, List.getElem?_cons_zero] at hb
      rwa [← Option.some.inj hb]

/-- A character in front of a text only moves its boundaries. -/
theorem isBoundary_cons_add (c : Char) (cs : List Char) (i : Nat) :
    isBoundary (utf8 (String.ofList (c :: cs))) (c.utf8Size + i) =
      isBoundary (utf8 (String.ofList cs)) i := by
  have hne : c.utf8Size + i ≠ 0 := by
    have hpos := c.utf8Size_pos
    omega
  have hget : (utf8 (String.ofList (c :: cs)))[c.utf8Size + i]? =
      (utf8 (String.ofList cs))[i]? := by
    rw [utf8_ofList, List.flatMap_cons, ← utf8_ofList, ← String.length_utf8EncodeChar,
      List.getElem?_append_right (Nat.le_add_right _ _), Nat.add_sub_cancel_left]
  cases hb : (utf8 (String.ofList cs))[i]? with
  | some b =>
      rw [hb] at hget
      rw [isBoundary_of_getElem? hne hget]
      by_cases hi : i = 0
      · subst hi
        rw [isContinuation_of_getElem?_zero hb]
        rfl
      · rw [isBoundary_of_getElem? hi hb]
  | none =>
      have hle := List.getElem?_eq_none_iff.1 hb
      rw [isBoundary_of_length_le hne (by rw [length_utf8_cons]; omega), length_utf8_cons]
      by_cases hi : i = 0
      · subst hi
        rw [isBoundary_zero, decide_eq_true_eq]
        omega
      · rw [isBoundary_of_length_le hi hle]
        simp only [Nat.add_right_inj]

/-- An offset inside of the first character is no boundary. -/
theorem isBoundary_cons_of_lt {c : Char} {cs : List Char} (hi : i ≠ 0) (hlt : i < c.utf8Size) :
    isBoundary (utf8 (String.ofList (c :: cs))) i = false := by
  obtain ⟨b, bs, hc, _, hothers⟩ := exists_utf8EncodeChar_eq c
  have hlen : i < (b :: bs).length := by
    rw [← hc, String.length_utf8EncodeChar]
    exact hlt
  obtain ⟨j, rfl⟩ := Nat.exists_eq_succ_of_ne_zero hi
  have hj : j < bs.length := Nat.lt_of_succ_lt_succ hlen
  have hget : (utf8 (String.ofList (c :: cs)))[j + 1]? = some bs[j] := by
    rw [utf8_ofList, List.flatMap_cons, hc, List.getElem?_append_left hlen,
      List.getElem?_cons_succ, List.getElem?_eq_getElem hj]
  rw [isBoundary_of_getElem? hi hget, hothers _ (List.getElem_mem hj)]
  rfl

/-- A beginning is empty, or it is the first character and a beginning of the rest. -/
theorem exists_prefix_cons_iff {c : Char} {cs : List Char} :
    (∃ t, t <+: c :: cs ∧ (utf8 (String.ofList t)).length = n) ↔
      n = 0 ∨ ∃ t, t <+: cs ∧ c.utf8Size + (utf8 (String.ofList t)).length = n := by
  constructor
  · rintro ⟨t, ht, rfl⟩
    cases t with
    | nil => exact .inl rfl
    | cons c' t =>
        obtain ⟨rfl, hrest⟩ := List.cons_prefix_cons.1 ht
        exact .inr ⟨t, hrest, (length_utf8_cons c' t).symm⟩
  · rintro (rfl | ⟨t, ht, rfl⟩)
    · exact ⟨[], List.nil_prefix, rfl⟩
    · exact ⟨c :: t, List.cons_prefix_cons.2 ⟨rfl, ht⟩, length_utf8_cons c t⟩

theorem isBoundary_ofList_iff {cs : List Char} :
    isBoundary (utf8 (String.ofList cs)) i = true ↔
      ∃ t, t <+: cs ∧ (utf8 (String.ofList t)).length = i := by
  induction cs generalizing i with
  | nil =>
      have hnil : utf8 (String.ofList []) = [] := rfl
      by_cases hi : i = 0
      · subst hi
        exact iff_of_true rfl ⟨[], List.nil_prefix, by rw [hnil, List.length_nil]⟩
      · refine iff_of_false ?_ ?_
        · rw [hnil, isBoundary_of_length_le hi (Nat.zero_le _), decide_eq_true_eq]
          exact hi
        · rintro ⟨t, ht, hlen⟩
          rw [List.prefix_nil.1 ht, hnil] at hlen
          exact hi hlen.symm
  | cons c cs ih =>
      rw [exists_prefix_cons_iff]
      by_cases hi : i = 0
      · subst hi
        exact iff_of_true rfl (.inl rfl)
      rcases Nat.lt_or_ge i c.utf8Size with hlt | hge
      · rw [isBoundary_cons_of_lt hi hlt]
        refine iff_of_false Bool.false_ne_true ?_
        rintro (h0 | ⟨t, _, hlen⟩)
        · exact hi h0
        · omega
      · -- the offset is one of the rest, behind the first character
        obtain ⟨j, rfl⟩ := Nat.exists_eq_add_of_le hge
        rw [isBoundary_cons_add, ih, or_iff_right hi]
        simp only [Nat.add_right_inj]

/-- The boundaries of a text are where its beginnings end. -/
theorem isBoundary_utf8_iff :
    isBoundary (utf8 s) i = true ↔ ∃ t behind, s = t ++ behind ∧ (utf8 t).length = i := by
  rw [← String.ofList_toList (s := s), isBoundary_ofList_iff, String.ofList_toList]
  constructor
  · rintro ⟨t, ⟨behind, ht⟩, hlen⟩
    refine ⟨String.ofList t, String.ofList behind, ?_, hlen⟩
    rw [← String.ofList_append, ht, String.ofList_toList]
  · rintro ⟨t, behind, rfl, hlen⟩
    refine ⟨t.toList, ⟨behind.toList, String.toList_append.symm⟩, ?_⟩
    rwa [String.ofList_toList]

/-! ## Going back -/

/-- Going back ends, at the last boundary. -/
theorem backToBoundary?_eq (bs : Bytes) (n : Nat) :
    backToBoundary? bs n = some (Nat.findGreatest (fun i => isBoundary bs i = true) n) := by
  induction n with
  | zero => rfl
  | succ n ih =>
      rw [backToBoundary?, Nat.findGreatest_succ]
      split
      · rfl
      · exact ih

theorem backToBoundary?_eq_some_iff :
    backToBoundary? bs n = some k ↔
      k ≤ n ∧ isBoundary bs k = true ∧ ∀ i ≤ n, isBoundary bs i = true → i ≤ k := by
  rw [backToBoundary?_eq, Option.some.injEq, Nat.findGreatest_eq_iff]
  constructor
  · rintro ⟨hle, hk, hlast⟩
    refine ⟨hle, ?_, fun i hi hb => Nat.not_lt.1 fun hlt => hlast hlt hi hb⟩
    by_cases h0 : k = 0
    · rw [h0, isBoundary_zero]
    · exact hk h0
  · rintro ⟨hle, hk, hlast⟩
    exact ⟨hle, fun _ => hk, fun i hlt hi hb => Nat.not_lt.2 (hlast i hi hb) hlt⟩

/-! ## The longest beginning -/

/-- A text is the longest beginning of another that has at most `n` bytes: all others are
beginnings of it. -/
structure IsLongestCut (n : Nat) (s cut : String) : Prop where
  eq_append : ∃ behind, s = cut ++ behind
  size_le : (utf8 cut).length ≤ n
  longest : ∀ t behind, s = t ++ behind → (utf8 t).length ≤ n → ∃ more, cut = t ++ more

namespace IsLongestCut

theorem length_le (h : IsLongestCut n s cut) : (utf8 cut).length ≤ (utf8 s).length := by
  obtain ⟨behind, rfl⟩ := h.eq_append
  rw [utf8_append, List.length_append]
  exact Nat.le_add_right _ _

/-- Going back from the last byte that may be kept ends behind the longest beginning. -/
theorem backToBoundary?_eq (h : IsLongestCut n s cut) :
    backToBoundary? (utf8 s) (min (utf8 s).length n) = some (utf8 cut).length := by
  obtain ⟨behind, hs⟩ := h.eq_append
  refine backToBoundary?_eq_some_iff.2 ⟨Nat.le_min.2 ⟨h.length_le, h.size_le⟩,
    isBoundary_utf8_iff.2 ⟨cut, behind, hs, rfl⟩, fun i hi hb => ?_⟩
  obtain ⟨t, behind', ht, rfl⟩ := isBoundary_utf8_iff.1 hb
  obtain ⟨more, rfl⟩ := h.longest t behind' ht (Nat.le_trans hi (Nat.min_le_right _ _))
  rw [utf8_append, List.length_append]
  exact Nat.le_add_right _ _

/-- A character has four bytes at most, so at most three are lost. -/
theorem min_le_add_three (h : IsLongestCut n s cut) :
    min (utf8 s).length n ≤ (utf8 cut).length + 3 := by
  obtain ⟨behind, hs⟩ := h.eq_append
  cases hbehind : behind.toList with
  | nil =>
      have hcut : s = cut := by
        rw [hs, String.toList_eq_nil_iff.1 hbehind, String.append_empty]
      rw [hcut]
      omega
  | cons c cs =>
      have hnext : s = cut ++ String.ofList [c] ++ String.ofList cs := by
        rw [hs, String.append_assoc, ← String.ofList_append, List.singleton_append, ← hbehind,
          String.ofList_toList]
      have hsize : (utf8 (cut ++ String.ofList [c])).length = (utf8 cut).length + c.utf8Size := by
        rw [utf8_append, List.length_append, length_utf8_cons]
        rfl
      have hpos := c.utf8Size_pos
      have hfour := c.utf8Size_le_four
      have hlt : n < (utf8 cut).length + c.utf8Size := by
        refine Nat.not_le.1 fun hle => ?_
        obtain ⟨more, hmore⟩ := h.longest _ _ hnext (Nat.le_trans (Nat.le_of_eq hsize) hle)
        have hlen := congrArg (fun t => (utf8 t).length) hmore
        rw [utf8_append, List.length_append, hsize] at hlen
        omega
      omega

end IsLongestCut

end WebServer
