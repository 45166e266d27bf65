import WebServer.Link

/-!
# WebServer.Proofs.Link.Writing

What writing leaves with the client. Writes that succeed add exactly their bytes to what
the client has taken, in however many parts (`output_of_writeAll`); others add a beginning
of them (`takes_writeAll`). A client that takes something of every write (`IsOpen`) takes
everything (`writeAll_of_isOpen`). Waiting adds nothing (`sink_await`).
-/

namespace WebServer

namespace Sink

variable {s s' : Sink} {bs : Bytes} {bss : List Bytes} {n : Nat}

theorem output_take (s : Sink) (bs : Bytes) : (s.take bs).output = s.output ++ bs := by
  simp [take, output]

/-! ## Writes that succeed -/

theorem output_of_write (h : s.write bs = (.done, s')) : s'.output = s.output ++ bs := by
  fun_induction write s bs with
  | case1 s =>
      obtain rfl := (Prod.mk.inj h).2
      rw [List.append_nil]
  | case3 s bs _ n _ ih => rw [ih h, output_take, List.append_assoc, List.take_append_drop]
  | case2 | case4 | case5 => simp at h

theorem output_of_writeAll (h : s.writeAll bss = (.done, s')) :
    s'.output = s.output ++ bss.flatten := by
  induction bss generalizing s with
  | nil =>
      obtain rfl := (Prod.mk.inj h).2
      rw [List.flatten_nil, List.append_nil]
  | cons bs bss ih =>
      rw [writeAll] at h
      split at h
      · next s₁ hs₁ =>
          rw [ih h, output_of_write hs₁, List.flatten_cons, List.append_assoc]
      · next r s₁ hne _ => exact absurd (Prod.mk.inj h).1 hne

/-! ## Writes that may fail -/

/-- From one state to the next the client has taken a beginning of some bytes, and nothing
else. -/
def Takes (bs : Bytes) (s s' : Sink) : Prop := ∃ p, p <+: bs ∧ s'.output = s.output ++ p

theorem takes_refl (bs : Bytes) (s : Sink) : Takes bs s s :=
  ⟨[], List.nil_prefix, (List.append_nil _).symm⟩

theorem Takes.append_right (h : Takes bs s s') (bs' : Bytes) : Takes (bs ++ bs') s s' := by
  obtain ⟨p, hp, hout⟩ := h
  exact ⟨p, hp.trans (List.prefix_append _ _), hout⟩

/-- Bytes that are taken as a whole come in front of those that are taken next. -/
theorem Takes.after {s₁ : Sink} {bs₁ : Bytes} (h : Takes bs s₁ s')
    (h₁ : s₁.output = s.output ++ bs₁) : Takes (bs₁ ++ bs) s s' := by
  obtain ⟨p, hp, hout⟩ := h
  exact ⟨bs₁ ++ p, (List.prefix_append_right_inj _).2 hp, by rw [hout, h₁, List.append_assoc]⟩

theorem takes_write (s : Sink) (bs : Bytes) : Takes bs s (s.write bs).2 := by
  fun_induction write s bs with
  | case1 | case4 | case5 => exact takes_refl _ _
  | case2 s bs => exact ⟨[], List.nil_prefix, s.output_take []⟩
  | case3 s bs _ n _ ih =>
      have htake := ih.after (s.output_take (bs.take (n + 1)))
      rwa [List.take_append_drop] at htake

theorem takes_writeAll (s : Sink) (bss : List Bytes) :
    Takes bss.flatten s (s.writeAll bss).2 := by
  induction bss generalizing s with
  | nil => exact takes_refl _ _
  | cons bs bss ih =>
      rw [writeAll, List.flatten_cons]
      split
      · next s₁ hs₁ => exact (ih s₁).after (output_of_write hs₁)
      · next r s₁ _ hs₁ =>
          have hwrite := takes_write s bs
          rw [hs₁] at hwrite
          exact hwrite.append_right _

/-- Of bytes that are not taken as a whole a beginning is taken, at most. -/
theorem output_of_write_ne_done (h : (s.write bs).1 ≠ .done) :
    ∃ p, p <+: bs ∧ p.length < bs.length ∧ (s.write bs).2.output = s.output ++ p := by
  fun_induction write s bs with
  | case1 => exact absurd rfl h
  | case2 s bs hne =>
      exact ⟨[], List.nil_prefix, List.length_pos_iff.2 hne, s.output_take []⟩
  | case3 s bs _ n _ ih =>
      obtain ⟨p, hp, hlt, hout⟩ := ih h
      refine ⟨bs.take (n + 1) ++ p, ?_, ?_, ?_⟩
      · have happend := (List.prefix_append_right_inj (bs.take (n + 1))).2 hp
        rwa [List.take_append_drop] at happend
      · rw [List.length_drop] at hlt
        rw [List.length_append, List.length_take]
        omega
      · rw [hout, output_take, List.append_assoc]
  | case4 s bs hne | case5 s bs hne =>
      exact ⟨[], List.nil_prefix, List.length_pos_iff.2 hne, (List.append_nil _).symm⟩

theorem writeAll_singleton (s : Sink) (bs : Bytes) : s.writeAll [bs] = s.write bs := by
  rw [writeAll]
  split
  · next s₁ h => rw [h, writeAll]
  · next r s₁ _ h => exact h.symm

/-- Writing waits for ever only on a client that stops taking. -/
theorem write_of_stall_eq_none (h : s.stall = none) :
    (s.write bs).1 ≠ .stalled ∧ (s.write bs).2.stall = none := by
  fun_induction write s bs with
  | case1 | case4 => exact ⟨by simp, h⟩
  | case2 => exact ⟨by simp, h⟩
  | case3 s bs _ n _ ih => exact ih h
  | case5 s bs hne hoffer =>
      have hroom : s.room s.stall bs.length = bs.length := by simp [room, h]
      have hpos : bs.length ≠ 0 := mt List.length_eq_zero_iff.1 hne
      simp only [offer, hroom, if_neg hpos] at hoffer
      repeat' split at hoffer
      all_goals contradiction

theorem writeAll_of_stall_eq_none (h : s.stall = none) :
    (s.writeAll bss).1 ≠ .stalled ∧ (s.writeAll bss).2.stall = none := by
  induction bss generalizing s with
  | nil => exact ⟨by simp [writeAll], h⟩
  | cons bs bss ih =>
      have hwrite : (s.write bs).1 ≠ .stalled ∧ (s.write bs).2.stall = none :=
        write_of_stall_eq_none h
      rw [writeAll]
      split
      · next s₁ hs =>
          rw [hs] at hwrite
          exact ih hwrite.2
      · next r s₁ _ hs =>
          rw [hs] at hwrite
          exact hwrite

/-! ## A client that takes everything -/

/-- The client takes everything, be it in small writes. -/
structure IsOpen (s : Sink) : Prop where
  grants : (∀ n ∈ s.grants, n ≠ 0) ∧ s.cap ≠ some 0
  limit : s.limit = none
  stall : s.stall = none

theorem IsOpen.take (h : s.IsOpen) (bs : Bytes) : (s.take bs).IsOpen :=
  ⟨⟨fun n hn => h.grants.1 n (List.mem_of_mem_tail hn), h.grants.2⟩, h.limit, h.stall⟩

/-- Of some bytes every write takes some. -/
theorem offer_of_isOpen (h : s.IsOpen) (hn : n ≠ 0) : ∃ k, s.offer n = .took (k + 1) := by
  have hg : s.granted n ≠ 0 := by
    unfold granted
    split
    · next g hg =>
        have hne : g ≠ 0 := by
          cases hgrants : s.grants with
          | nil =>
              rintro rfl
              exact h.grants.2 (by simpa [hgrants] using hg)
          | cons g' rest =>
              obtain rfl : g' = g := by simpa [hgrants] using hg
              exact h.grants.1 _ (by rw [hgrants]; exact List.mem_cons_self)
        omega
    · exact hn
  refine ⟨min (s.granted n) n - 1, ?_⟩
  simp only [offer, h.limit, h.stall, room, if_neg hg, if_neg hn, Nat.min_self]
  congr 1
  omega

theorem write_of_isOpen (h : s.IsOpen) (bs : Bytes) :
    ∃ s', s.write bs = (.done, s') ∧ s'.IsOpen := by
  fun_induction write s bs with
  | case1 s => exact ⟨s, rfl, h⟩
  | case3 s bs _ n _ ih => exact ih (h.take _)
  | case2 s bs hne hoffer | case4 s bs hne hoffer | case5 s bs hne hoffer =>
      obtain ⟨k, hk⟩ := offer_of_isOpen h (mt List.length_eq_zero_iff.1 hne)
      simp [hk] at hoffer

theorem writeAll_of_isOpen (h : s.IsOpen) (bss : List Bytes) :
    ∃ s', s.writeAll bss = (.done, s') ∧ s'.IsOpen ∧ s'.output = s.output ++ bss.flatten := by
  obtain ⟨s', hs', hopen⟩ : ∃ s', s.writeAll bss = (.done, s') ∧ s'.IsOpen := by
    induction bss generalizing s with
    | nil => exact ⟨s, rfl, h⟩
    | cons bs bss ih =>
        obtain ⟨s₁, hs₁, hopen₁⟩ := write_of_isOpen h bs
        obtain ⟨s', hs', hopen⟩ := ih hopen₁
        exact ⟨s', by rw [writeAll, hs₁]; exact hs', hopen⟩
  exact ⟨s', hs', hopen, output_of_writeAll hs'⟩

end Sink

namespace Link

theorem output_of_writeAll {l l' : Link} {bss : List Bytes} (h : l.writeAll bss = (.done, l')) :
    l'.sink.output = l.sink.output ++ bss.flatten := by
  obtain ⟨hdone, rfl⟩ := Prod.mk.inj h
  exact Sink.output_of_writeAll (Prod.ext hdone rfl)

theorem takes_writeAll (l : Link) (bss : List Bytes) :
    Sink.Takes bss.flatten l.sink (l.writeAll bss).2.sink := Sink.takes_writeAll _ _

/-! ## Waiting -/

theorem sink_perform (l : Link) (a : Act) : (l.perform a).sink = l.sink := by
  cases a <;> rfl

theorem sink_giveUp (l : Link) (d : Option Nat) {α : Type} :
    (l.giveUp d (α := α)).2.sink = l.sink := by
  unfold giveUp
  split
  · split <;> rfl
  · rfl

/-- Waiting writes nothing. -/
theorem sink_await {α : Type} (ready : Link → Option α) (d : Option Nat) (l : Link) :
    (l.await ready d).2.sink = l.sink := by
  fun_induction await ready d l with
  | case1 => rfl
  | case2 l | case3 l => exact sink_giveUp l d
  | case4 l _ t act rest _ _ ih => rw [ih, sink_perform]

end Link

end WebServer
