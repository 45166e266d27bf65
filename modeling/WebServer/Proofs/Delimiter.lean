import WebServer.Bytes

/-!
# WebServer.Proofs.Delimiter

Searching a buffer that grows at its end. The first occurrence of a delimiter
does not move when bytes arrive (`indexOf?_append_of_some`), one that appears
reaches into the new bytes (`lt_add_length_of_indexOf?_append`), and a search may
leave out what is known to hold none (`indexOf?_eq_map_drop`).
-/

namespace WebServer

namespace Bytes

variable {needle hay more : Bytes} {k : Nat}

/-! ## What a search finds -/

theorem indexOf?_nil (needle : Bytes) : indexOf? needle [] = none := by
  unfold indexOf?
  split <;> rfl

/-- One step of a search. -/
theorem indexOf?_cons (hn : needle ≠ []) (b : UInt8) (bs : Bytes) :
    indexOf? needle (b :: bs) =
      if needle.isPrefixOf (b :: bs) then some 0 else (indexOf? needle bs).map (· + 1) := by
  have he : needle.isEmpty = false := by simpa using hn
  have hs := indexFrom_add needle bs 0 1
  unfold indexOf?
  rw [he]
  simp only [Bool.false_eq_true, if_false, indexFrom]
  split
  · rfl
  · exact hs

/-- A search finds the first place where the delimiter stands. -/
theorem indexOf?_eq_some_iff (hn : needle ≠ []) :
    indexOf? needle hay = some k ↔
      needle <+: hay.drop k ∧ ∀ j < k, ¬ needle <+: hay.drop j := by
  induction hay generalizing k with
  | nil => simp [indexOf?_nil, hn]
  | cons b bs ih =>
      rw [indexOf?_cons hn]
      by_cases hp : needle.isPrefixOf (b :: bs) = true
      · rw [if_pos hp, Option.some.injEq]
        rw [List.isPrefixOf_iff_prefix] at hp
        constructor
        · rintro rfl
          exact ⟨hp, fun j hj => absurd hj (Nat.not_lt_zero j)⟩
        · rintro ⟨_, hfirst⟩
          cases k with
          | zero => rfl
          | succ k => exact absurd hp (hfirst 0 (Nat.succ_pos k))
      · rw [if_neg hp]
        rw [List.isPrefixOf_iff_prefix] at hp
        cases k with
        | zero =>
            constructor
            · intro h
              obtain ⟨i, _, hi⟩ := Option.map_eq_some_iff.1 h
              contradiction
            · rintro ⟨h0, _⟩
              exact absurd h0 hp
        | succ k =>
            have hmap : (indexOf? needle bs).map (· + 1) = some (k + 1) ↔
                indexOf? needle bs = some k := by
              cases indexOf? needle bs <;> simp
            rw [hmap, ih, List.drop_succ_cons]
            constructor
            · rintro ⟨hk, hfirst⟩
              refine ⟨hk, fun j hj => ?_⟩
              cases j with
              | zero => exact hp
              | succ j => exact hfirst j (by omega)
            · rintro ⟨hk, hfirst⟩
              exact ⟨hk, fun j hj => hfirst (j + 1) (by omega)⟩

/-- A search fails when the delimiter stands nowhere. -/
theorem indexOf?_eq_none_iff (hn : needle ≠ []) :
    indexOf? needle hay = none ↔ ∀ j, ¬ needle <+: hay.drop j := by
  constructor
  · intro h j hj
    -- the first place up to `j` would have been found
    induction j using Nat.strongRecOn with
    | ind j ih =>
        have hs := (indexOf?_eq_some_iff hn).2 ⟨hj, fun i hi hp => ih i hi hp⟩
        rw [h] at hs
        contradiction
  · intro h
    cases hk : indexOf? needle hay with
    | none => rfl
    | some k => exact absurd ((indexOf?_eq_some_iff hn).1 hk).1 (h k)

theorem indexOf?_eq_none_iff_not_isInfix (hn : needle ≠ []) :
    indexOf? needle hay = none ↔ ¬ needle <:+: hay := by
  rw [indexOf?_eq_none_iff hn]
  constructor
  · rintro h ⟨front, behind, rfl⟩
    refine h front.length ?_
    rw [List.append_assoc, List.drop_left]
    exact List.prefix_append _ _
  · exact fun h j hj => h (hj.isInfix.trans (List.drop_suffix j hay).isInfix)

/-- A delimiter that is found lies in the bytes searched. -/
theorem add_length_le_of_indexOf? (h : indexOf? needle hay = some k) :
    k + needle.length ≤ hay.length := by
  obtain ⟨hk, hp⟩ := isPrefixOf_drop_of_indexOf? h
  have hle := (List.isPrefixOf_iff_prefix.1 hp).length_le
  rw [List.length_drop] at hle
  omega

theorem ne_nil_of_indexOf? (h : indexOf? needle hay = some k) : needle ≠ [] := by
  rintro rfl
  simp [indexOf?] at h

/-- A buffer is what stands before a delimiter, the delimiter, and what stands behind it. -/
theorem eq_append_of_indexOf? (h : indexOf? needle hay = some k) :
    hay = hay.take k ++ (needle ++ hay.drop (k + needle.length)) := by
  obtain ⟨rest, hrest⟩ := ((indexOf?_eq_some_iff (ne_nil_of_indexOf? h)).1 h).1
  rw [← List.drop_drop, ← hrest, List.drop_left, hrest, List.take_append_drop]

/-- A delimiter is not found where its first byte does not stand. -/
theorem indexOf?_append_of_not_mem {b : UInt8} {front : Bytes} (h : b ∉ front) (bs : Bytes) :
    indexOf? (b :: needle) (front ++ bs) =
      (indexOf? (b :: needle) bs).map (front.length + ·) := by
  induction front with
  | nil => simp
  | cons x front ih =>
      rw [List.mem_cons, not_or] at h
      have hx : ¬ (b :: needle).isPrefixOf (x :: (front ++ bs)) = true := by
        rw [List.isPrefixOf_iff_prefix, List.cons_prefix_cons]
        exact fun hp => h.1 hp.1
      rw [List.cons_append, indexOf?_cons (by simp), if_neg hx, ih h.2, Option.map_map]
      congr 1
      funext k
      simp only [Function.comp_apply, List.length_cons]
      omega

theorem indexOf?_eq_none_of_not_mem {b : UInt8} (h : b ∉ hay) :
    indexOf? (b :: needle) hay = none := by
  rw [← List.append_nil hay, indexOf?_append_of_not_mem h, indexOf?_nil, Option.map_none]

theorem indexOf?_self_append (hn : needle ≠ []) (bs : Bytes) :
    indexOf? needle (needle ++ bs) = some 0 := by
  refine (indexOf?_eq_some_iff hn).2 ⟨?_, fun j hj => absurd hj (Nat.not_lt_zero j)⟩
  rw [List.drop_zero]
  exact List.prefix_append _ _

/-! ## A buffer that grows -/

/-- A delimiter stays where it stands. -/
theorem prefix_drop_append (h : needle <+: hay.drop k) : needle <+: (hay ++ more).drop k := by
  rw [List.drop_append]
  exact h.trans (List.prefix_append _ _)

/-- A delimiter that lies in the old bytes stood there before. -/
theorem prefix_drop_of_append (hk : k + needle.length ≤ hay.length)
    (h : needle <+: (hay ++ more).drop k) : needle <+: hay.drop k := by
  rw [List.drop_append_of_le_length (by omega)] at h
  refine List.prefix_of_prefix_length_le h (List.prefix_append _ _) ?_
  rw [List.length_drop]
  omega

/-- A delimiter that lies across the end of the old bytes starts with the last of them, and goes
on with new ones. -/
theorem exists_of_prefix_drop_append (hk : k < hay.length) (hlong : hay.length < k + needle.length)
    (h : needle <+: (hay ++ more).drop k) :
    ∃ tail, tail ≠ [] ∧ tail <+: more ∧ needle = hay.drop k ++ tail := by
  rw [List.drop_append_of_le_length (Nat.le_of_lt hk)] at h
  obtain ⟨tail, rfl⟩ : hay.drop k <+: needle := by
    refine List.prefix_of_prefix_length_le (List.prefix_append _ _) h ?_
    rw [List.length_drop]
    omega
  refine ⟨tail, ?_, (List.prefix_append_right_inj _).1 h, rfl⟩
  rintro rfl
  rw [List.append_nil, List.length_drop] at hlong
  omega

/-- Bytes without a delimiter in them end where one stands, when it does not lie across their
end. -/
theorem indexOf?_append_self (hn : needle ≠ []) (h : ¬ needle <:+: hay) (rest : Bytes)
    (hacross : ∀ k < hay.length, ∀ tail ≠ [], tail <+: needle ++ rest →
      needle ≠ hay.drop k ++ tail) :
    indexOf? needle (hay ++ (needle ++ rest)) = some hay.length := by
  refine (indexOf?_eq_some_iff hn).2 ⟨?_, fun j hj hp => ?_⟩
  · rw [List.drop_left]
    exact List.prefix_append _ _
  · rcases Nat.lt_or_ge hay.length (j + needle.length) with hlong | hin
    · obtain ⟨tail, hne, htail, heq⟩ := exists_of_prefix_drop_append hj hlong hp
      exact hacross j hj tail hne htail heq
    · exact h ((prefix_drop_of_append hin hp).isInfix.trans (List.drop_suffix j hay).isInfix)

/-- A delimiter whose first byte is not repeated in it does not lie across the end of bytes that it
follows. -/
theorem indexOf?_append_of_first {b : UInt8} (hb : b ∉ needle) (h : ¬ b :: needle <:+: hay)
    (rest : Bytes) : indexOf? (b :: needle) (hay ++ (b :: needle ++ rest)) = some hay.length := by
  refine indexOf?_append_self (by simp) h rest fun k hk tail hne htail heq => ?_
  obtain ⟨x, xs, hx⟩ := List.exists_cons_of_ne_nil (mt List.drop_eq_nil_iff.1 (Nat.not_le.2 hk))
  obtain ⟨c, tail, rfl⟩ := List.exists_cons_of_ne_nil hne
  obtain rfl : c = b := (List.cons_prefix_cons.1 htail).1
  rw [hx, List.cons_append] at heq
  exact hb (by rw [(List.cons.inj heq).2]; simp)

/-- Nor does a delimiter that does not hold the last of these bytes. -/
theorem indexOf?_append_of_last {b : UInt8} (hn : needle ≠ []) (hb : b ∉ needle)
    (h : ¬ needle <:+: hay ++ [b]) (rest : Bytes) :
    indexOf? needle (hay ++ [b] ++ (needle ++ rest)) = some (hay ++ [b]).length := by
  refine indexOf?_append_self hn h rest fun k hk tail _ _ heq => hb ?_
  rw [List.length_append, List.length_singleton] at hk
  rw [heq, List.drop_append_of_le_length (by omega)]
  simp

/-- A line without a line end in it ends where its line end stands, also behind a CR. -/
theorem indexOf?_crlf_append {line : Bytes} (h : indexOf? crlf line = none) (rest : Bytes) :
    indexOf? crlf (line ++ (crlf ++ rest)) = some line.length :=
  indexOf?_append_of_first (by decide) ((indexOf?_eq_none_iff_not_isInfix (by decide)).1 h) rest

/-- The first occurrence does not move. -/
theorem indexOf?_append_of_some (h : indexOf? needle hay = some k) (more : Bytes) :
    indexOf? needle (hay ++ more) = some k := by
  have hn := ne_nil_of_indexOf? h
  have hle := add_length_le_of_indexOf? h
  obtain ⟨hk, hfirst⟩ := (indexOf?_eq_some_iff hn).1 h
  refine (indexOf?_eq_some_iff hn).2 ⟨prefix_drop_append hk, fun j hj hp => ?_⟩
  exact hfirst j hj (prefix_drop_of_append (by omega) hp)

/-- An occurrence that appears reaches into the new bytes. -/
theorem lt_add_length_of_indexOf?_append (h : indexOf? needle hay = none)
    (h' : indexOf? needle (hay ++ more) = some k) : hay.length < k + needle.length := by
  have hn := ne_nil_of_indexOf? h'
  have hk := ((indexOf?_eq_some_iff hn).1 h').1
  rcases Nat.lt_or_ge hay.length (k + needle.length) with hlt | hge
  · exact hlt
  · exact absurd (prefix_drop_of_append hge hk) ((indexOf?_eq_none_iff hn).1 h k)

/-- An occurrence that lies in the old bytes was found before. -/
theorem indexOf?_of_append (h : indexOf? needle (hay ++ more) = some k)
    (hle : k + needle.length ≤ hay.length) : indexOf? needle hay = some k := by
  cases hi : indexOf? needle hay with
  | none =>
      have hlt := lt_add_length_of_indexOf?_append hi h
      omega
  | some j =>
      have hgrown := indexOf?_append_of_some hi more
      rw [← hgrown, h]

/-- A search may start behind bytes at which no delimiter stands. -/
theorem indexOf?_eq_map_drop (hn : needle ≠ []) {s : Nat}
    (h : ∀ j < s, ¬ needle <+: hay.drop j) :
    (indexOf? needle (hay.drop s)).map (s + ·) = indexOf? needle hay := by
  induction s generalizing hay with
  | zero => simp
  | succ s ih =>
      cases hay with
      | nil => simp [indexOf?_nil]
      | cons b bs =>
          have h0 : needle.isPrefixOf (b :: bs) ≠ true := by
            rw [Ne, List.isPrefixOf_iff_prefix]
            exact h 0 (Nat.succ_pos s)
          have hs : ∀ j < s, ¬ needle <+: bs.drop j := fun j hj => h (j + 1) (by omega)
          rw [indexOf?_cons hn, if_neg h0, ← ih hs, List.drop_succ_cons, Option.map_map]
          congr 1
          funext i
          simp only [Function.comp_apply]
          omega

end Bytes

end WebServer
