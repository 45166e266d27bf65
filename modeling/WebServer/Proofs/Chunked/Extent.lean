import WebServer.Proofs.Chunked.Growth

/-!
# WebServer.Proofs.Chunked.Extent

A complete body in chunks takes the bytes it reports and looks at no other: what
the decoder does in front of some bytes it does as well without those behind them,
as long as it does not move over their end (`step_of_append`, `Reaches.of_append`).

Main statement: a body that is complete is complete when the bytes behind it are
taken away (`decode_of_append`).
-/

namespace WebServer

namespace Chunked

variable {bs more : Bytes} {n : Nat}

/-! ## Framing lines -/

/-- A line that ends in the old bytes ended there before. -/
theorem lineLength?_of_append (h : lineLength? (bs ++ more) = .ok (some n))
    (hle : n + 2 ≤ bs.length) : lineLength? bs = .ok (some n) := by
  unfold lineLength? at h ⊢
  split at h
  · next m hm =>
      obtain rfl : m = n := by simpa using h
      have hwin := Bytes.add_length_le_of_indexOf? hm
      rw [List.take_append] at hm
      have hfound : Bytes.indexOf? crlf (bs.take (maxLine + 2)) = some m := by
        refine Bytes.indexOf?_of_append hm ?_
        simp only [crlf, List.length_cons, List.length_nil, List.length_take] at hwin ⊢
        omega
      rw [hfound]
  · split at h <;> simp at h

namespace Decoder

variable {d d' d₁ : Decoder} {rest rest' body : Bytes} {k : Nat}

/-! ## Steps -/

/-- A chunk whose bytes are all there is decided on. -/
theorem chunkStep_ne_starved {size : Nat} {data : Bytes} (h : size + 2 ≤ data.length) :
    d.chunkStep n size data ≠ .starved := by
  obtain ⟨a, b, t, ht⟩ : ∃ a b t, data.drop size = a :: b :: t := by
    have hlen : 2 ≤ (data.drop size).length := by
      rw [List.length_drop]
      omega
    match data.drop size, hlen with
    | a :: b :: t, _ => exact ⟨a, b, t, rfl⟩
  unfold chunkStep
  dsimp only
  rw [ht]
  repeat' split
  all_goals simp_all

/-- A step that moves over old bytes only is the step that was made before. -/
theorem step_of_append (h : d.step (rest ++ more) = .moved d' k) (hk : k ≤ rest.length) :
    d.step rest = .moved d' k := by
  obtain ⟨n, hn, hcase⟩ := of_step_eq_moved h
  have hnk : n + 2 ≤ k := by
    obtain ⟨_, _, rfl, _⟩ | ⟨_, _, rfl, _⟩ | ⟨size, _, _, _, hchunk⟩ := hcase
    · exact Nat.le_refl _
    · exact Nat.le_refl _
    · obtain ⟨_, _, rfl, _⟩ := of_chunkStep_eq_moved hchunk
      omega
  have hline := lineLength?_of_append hn (by omega)
  have hdecided : d.step rest ≠ .starved := by
    rw [List.take_append_of_le_length (by omega)] at hcase
    unfold step
    rw [hline]
    dsimp only
    obtain ⟨ht, hz, _, _⟩ | ⟨ht, hs, _, _⟩ | ⟨size, ht, hs, hpos, hchunk⟩ := hcase
    · rw [if_pos ht, if_neg hz]
      exact Step.noConfusion
    · rw [if_neg (by simp [ht]), hs]
      exact Step.noConfusion
    · obtain ⟨_, _, rfl, _⟩ := of_chunkStep_eq_moved hchunk
      obtain ⟨m, rfl⟩ : ∃ m, size = m + 1 := ⟨size - 1, by omega⟩
      rw [if_neg (by simp [ht]), hs]
      refine chunkStep_ne_starved ?_
      rw [List.length_drop]
      omega
  have hsame : d.step (rest ++ more) = d.step rest :=
    step_append hdecided fun hc => absurd hc (not_cutLine_of_lineLength? hline)
  rw [← hsame, h]

/-- The end of a body that lies in old bytes was its end before. -/
theorem finished_of_append (h : d.step (rest ++ more) = .finished d') (hle : 2 ≤ rest.length) :
    d.step rest = .finished d' := by
  obtain ⟨ht, hn, rfl⟩ := of_step_eq_finished h
  unfold step
  rw [lineLength?_of_append hn hle]
  dsimp only
  rw [if_pos ht, if_pos rfl]

/-! ## Runs -/

/-- Places in old bytes were reached before. -/
theorem Reaches.of_append {front : Bytes} (h : Reaches d (front ++ more) d' rest')
    (hle : d'.pos ≤ d.pos + front.length) :
    ∃ front', rest' = front' ++ more ∧ Reaches d front d' front' := by
  generalize hr : front ++ more = rest at h
  induction h generalizing front with
  | refl d rest => exact ⟨front, hr.symm, .refl d front⟩
  | @moved d d₁ d' rest rest' n hs hreach ih =>
      subst hr
      obtain ⟨c, _, _, hpos⟩ := hreach.drop
      have hmoved := pos_of_step hs
      have hn : n ≤ front.length := by omega
      rw [List.drop_append_of_le_length hn] at ih
      obtain ⟨front', rfl, hreach'⟩ := ih (by rw [List.length_drop]; omega) rfl
      exact ⟨front', rfl, .moved (step_of_append hs hn) hreach'⟩

/-- A complete body needs none of the bytes behind it. -/
theorem run_of_append (h : d.run (rest ++ more) = (.ok (some k), d'))
    (hk : k ≤ d.pos + rest.length) : d.run rest = (.ok (some k), d') := by
  obtain ⟨d₁, rest₁, hr, ⟨_, hs⟩ | ⟨_, _, hs⟩ | ⟨d₂, hf, hs⟩⟩ :=
    exists_reaches_stop d (rest ++ more)
  · simp [h] at hs
  · simp [h] at hs
  · obtain ⟨rfl, rfl⟩ : k = d₂.pos ∧ d' = d₂ := by simpa [h] using hs
    have hpos : d'.pos = d₁.pos + 2 := by rw [(of_step_eq_finished hf).2.2]
    obtain ⟨front, rfl, hreach⟩ := hr.of_append (by omega)
    obtain ⟨c, hc, rfl, hc'⟩ := hreach.drop
    have hend := finished_of_append hf (by rw [List.length_drop]; omega)
    rw [hreach.run_eq, run_of_finished hend]

/-- **A complete body is complete without what follows it.** -/
theorem decode_of_append (h : d.decode (body ++ more) = (.ok (some k), d'))
    (hk : k ≤ body.length) : d.decode body = (.ok (some k), d') := by
  have hle := pos_le_of_decode h
  rw [decode_eq_run hle] at h
  have hpos : d.pos ≤ body.length := by
    have := (le_of_run h).1
    omega
  rw [List.drop_append_of_le_length hpos] at h
  rw [decode_eq_run hpos]
  exact run_of_append h (by rw [List.length_drop]; omega)

end Decoder

end Chunked

end WebServer
