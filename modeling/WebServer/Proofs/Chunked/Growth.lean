import WebServer.Chunked
import WebServer.Proofs.Delimiter

/-!
# WebServer.Proofs.Chunked.Growth

The chunk decoder on a body that grows. A step that has decided something decides
the same when more bytes follow (`step_append`), with one exception: a line as
long as a line may be, of whose line end only the first byte has arrived
(`CutLine`). From the steps follow the runs: `Reaches` says how a decoder moves
from chunk to chunk, and a run is settled by where it stops.

Main statements: a complete body stays what it is (`decode_append_of_some`), a
decoder may be resumed (`decode_resume`), and a refusal is final exactly when no
line is cut at the limit (`run_append_of_error`, `run_append_of_stopsAtCut`).
-/

namespace WebServer

namespace Chunked

variable {bs more : Bytes} {n : Nat}

/-! ## Framing lines -/

/-- A framing line is read up to its line end. -/
theorem lineLength?_append_crlf {line : Bytes} (h : Bytes.indexOf? crlf line = none)
    (hlen : line.length ≤ maxLine) (rest : Bytes) :
    lineLength? (line ++ (crlf ++ rest)) = .ok (some line.length) := by
  have hwin : (line ++ (crlf ++ rest)).take (maxLine + 2) =
      line ++ (crlf ++ rest.take (maxLine - line.length)) := by
    have hsub : maxLine + 2 - line.length - crlf.length = maxLine - line.length := by
      simp only [crlf, List.length_cons, List.length_nil]
      omega
    rw [List.take_append, List.take_of_length_le (by omega), List.take_append,
      List.take_of_length_le (by simp only [crlf, List.length_cons, List.length_nil]; omega), hsub]
  unfold lineLength?
  rw [hwin, Bytes.indexOf?_crlf_append h]

/-- A framing line that is read ends with a line end and holds none. -/
theorem of_lineLength? (h : lineLength? bs = .ok (some n)) :
    bs = bs.take n ++ (crlf ++ bs.drop (n + 2)) ∧ n ≤ maxLine ∧
      Bytes.indexOf? crlf (bs.take n) = none := by
  have hle := lineLength?_add_two_le h
  unfold lineLength? at h
  split at h
  · next m hm =>
      obtain rfl : m = n := by simpa using h
      have hwin := Bytes.add_length_le_of_indexOf? hm
      simp only [crlf, List.length_cons, List.length_nil, List.length_take] at hwin
      obtain ⟨hp, hfirst⟩ := (Bytes.indexOf?_eq_some_iff (by decide)).1 hm
      refine ⟨?_, by omega, (Bytes.indexOf?_eq_none_iff (by decide)).2 fun j hj => ?_⟩
      · obtain ⟨rest, hrest⟩ : crlf <+: bs.drop m := by
          rw [List.drop_take] at hp
          exact hp.trans (List.take_prefix _ _)
        have hbehind : bs.drop (m + 2) = rest := by
          rw [← List.drop_drop, ← hrest]
          rfl
        rw [hbehind, hrest, List.take_append_drop]
      · -- a line end inside the line would have been found first
        have hj2 := hj.length_le
        rw [List.length_drop, List.length_take] at hj2
        simp only [crlf, List.length_cons, List.length_nil] at hj2
        refine hfirst j (by omega) ?_
        have hsplit : bs.take (maxLine + 2) = bs.take m ++ (bs.drop m).take (maxLine + 2 - m) := by
          rw [← List.take_add]
          congr 1
          omega
        rw [hsplit]
        exact Bytes.prefix_drop_append hj
  · split at h <;> simp at h

/-- A line end cut in the middle, behind a line as long as a line may be. -/
def CutLine (bs : Bytes) : Prop :=
  bs.length = maxLine + 1 ∧ bs.getLast? = some 13 ∧ Bytes.indexOf? crlf bs = none

instance (bs : Bytes) : Decidable (CutLine bs) :=
  inferInstanceAs (Decidable (_ ∧ _ ∧ _))

/-- A line that has ended stays the same. -/
theorem lineLength?_append_of_some (h : lineLength? bs = .ok (some n)) (more : Bytes) :
    lineLength? (bs ++ more) = .ok (some n) := by
  unfold lineLength? at h ⊢
  split at h
  · next m hm =>
      obtain rfl : m = n := by simpa using h
      rw [List.take_append, Bytes.indexOf?_append_of_some hm]
  · split at h <;> simp at h

/-- A line is refused for its length. -/
theorem lineLength?_eq_error {e : ParseError} (h : lineLength? bs = .error e) :
    e = .invalidChunk ∧ maxLine < bs.length ∧
      Bytes.indexOf? crlf (bs.take (maxLine + 2)) = none := by
  unfold lineLength? at h
  split at h
  · contradiction
  · next hn =>
      split at h
      · contradiction
      · next hd =>
          rw [List.isEmpty_iff, List.drop_eq_nil_iff] at hd
          exact ⟨by simpa using h.symm, by omega, hn⟩

/-- What is longer than a line may be and holds no line end is refused. -/
theorem lineLength?_of_long (hl : maxLine < bs.length)
    (hn : Bytes.indexOf? crlf (bs.take (maxLine + 2)) = none) :
    lineLength? bs = .error .invalidChunk := by
  have hd : ¬ (bs.drop maxLine).isEmpty = true := by
    rw [List.isEmpty_iff, List.drop_eq_nil_iff]
    omega
  unfold lineLength?
  rw [hn]
  simp [hd]

/-- A line that is refused stays refused, unless its cut line end becomes whole. -/
theorem lineLength?_append_of_error {e : ParseError} (h : lineLength? bs = .error e)
    (hc : CutLine bs → more.head? ≠ some 10) : lineLength? (bs ++ more) = .error e := by
  obtain ⟨rfl, hl, hn⟩ := lineLength?_eq_error h
  refine lineLength?_of_long (by rw [List.length_append]; omega) ?_
  rcases Nat.lt_or_ge bs.length (maxLine + 2) with hlt | hge
  · -- one byte short of the window: only a line end across the edge is new
    have hwin : bs.take (maxLine + 2) = bs := List.take_of_length_le (by omega)
    rw [hwin] at hn
    rw [List.take_append, hwin]
    cases hk : Bytes.indexOf? crlf (bs ++ more.take (maxLine + 2 - bs.length)) with
    | none => rfl
    | some k =>
        have hlen : bs.length = maxLine + 1 := by omega
        have hlt := Bytes.lt_add_length_of_indexOf?_append hn hk
        have hle := Bytes.add_length_le_of_indexOf? hk
        obtain ⟨hp, _⟩ := (Bytes.indexOf?_eq_some_iff (by decide)).1 hk
        simp only [crlf, List.length_cons, List.length_nil, List.length_append,
          List.length_take] at hlt hle
        obtain rfl : k = maxLine := by omega
        obtain ⟨b, hb⟩ : ∃ b, bs.drop maxLine = [b] :=
          List.length_eq_one_iff.1 (by rw [List.length_drop]; omega)
        have hsub : maxLine + 2 - bs.length = 1 := by omega
        rw [List.drop_append_of_le_length (by omega), hb, hsub] at hp
        obtain ⟨h13, h10⟩ := List.cons_prefix_cons.1 hp
        have hlast : bs.getLast? = some 13 := by
          rw [← List.take_append_drop maxLine bs, hb, List.getLast?_concat, ← h13]
        refine absurd ?_ (hc ⟨hlen, hlast, hn⟩)
        cases more with
        | nil => simp at h10
        | cons c more => simpa using (List.cons_prefix_cons.1 h10).1.symm
  · rw [List.take_append_of_le_length hge, hn]

/-- A cut line is refused, and is a line once its line end is whole. -/
theorem lineLength?_of_cutLine (h : CutLine bs) :
    lineLength? bs = .error .invalidChunk ∧ lineLength? (bs ++ [10]) = .ok (some maxLine) := by
  obtain ⟨hl, hlast, hn⟩ := h
  constructor
  · refine lineLength?_of_long (by omega) ?_
    rw [List.take_of_length_le (by omega), hn]
  · have hdrop : (bs ++ [10]).drop maxLine = crlf := by
      obtain ⟨b, hb⟩ : ∃ b, bs.drop maxLine = [b] :=
        List.length_eq_one_iff.1 (by rw [List.length_drop]; omega)
      rw [← List.take_append_drop maxLine bs, hb, List.getLast?_concat] at hlast
      obtain rfl : b = 13 := by simpa using hlast
      rw [List.drop_append_of_le_length (by omega), hb]
      rfl
    have hk : Bytes.indexOf? crlf (bs ++ [10]) = some maxLine := by
      refine (Bytes.indexOf?_eq_some_iff (by decide)).2
        ⟨hdrop.symm ▸ List.prefix_refl crlf, fun j hj hp => ?_⟩
      have hle : j + crlf.length ≤ bs.length := by
        simp only [crlf, List.length_cons, List.length_nil]
        omega
      exact (Bytes.indexOf?_eq_none_iff (by decide)).1 hn j (Bytes.prefix_drop_of_append hle hp)
    unfold lineLength?
    rw [List.take_of_length_le (by rw [List.length_append, List.length_singleton]; omega), hk]

/-- A line that has ended is not cut. -/
theorem not_cutLine_of_lineLength? (h : lineLength? bs = .ok (some n)) : ¬ CutLine bs := by
  intro hc
  rw [(lineLength?_of_cutLine hc).1] at h
  contradiction

namespace Decoder

variable {d d' d₁ : Decoder} {rest rest' body : Bytes} {e : ParseError}

/-! ## Steps -/

/-- A chunk that has been decided on stays decided. -/
theorem chunkStep_append {size : Nat} {data : Bytes}
    (h : d.chunkStep n size data ≠ .starved) (more : Bytes) :
    d.chunkStep n size (data ++ more) = d.chunkStep n size data := by
  unfold chunkStep at h ⊢
  dsimp only at h ⊢
  split
  · rfl
  split
  · rfl
  split
  · rfl
  split
  · rfl
  rw [if_neg ‹_›, if_neg ‹_›, if_neg ‹_›, if_neg ‹_›] at h
  -- the two bytes behind the data are there, or the step would starve
  have htwo : ∃ a b t, data.drop size = a :: b :: t := by
    cases hd : data.drop size with
    | nil => simp [hd] at h
    | cons a t =>
        cases t with
        | nil => simp [hd] at h
        | cons b t => exact ⟨a, b, t, rfl⟩
  obtain ⟨a, b, t, ht⟩ := htwo
  have hle : size ≤ data.length := by
    have hl := congrArg List.length ht
    rw [List.length_drop, List.length_cons, List.length_cons] at hl
    omega
  rw [List.drop_append_of_le_length hle, List.take_append_of_le_length hle, ht]
  by_cases hab : a = 13 ∧ b = 10
  · obtain ⟨rfl, rfl⟩ := hab
    rfl
  · simp only [List.cons_append]
    split
    · simp_all
    · split <;> simp_all
    · split <;> simp_all

/-- A step that has decided something stays decided, unless a cut line end becomes
whole. -/
theorem step_append (h : d.step rest ≠ .starved) (hc : CutLine rest → more.head? ≠ some 10) :
    d.step (rest ++ more) = d.step rest := by
  unfold step at h ⊢
  cases hl : lineLength? rest with
  | error e => rw [lineLength?_append_of_error hl hc]
  | ok o =>
      cases o with
      | none => simp [hl] at h
      | some n =>
          have hle := lineLength?_add_two_le hl
          rw [hl] at h
          rw [lineLength?_append_of_some hl]
          dsimp only at h ⊢
          rw [List.take_append_of_le_length (by omega), List.drop_append_of_le_length hle]
          split
          · rfl
          · rw [if_neg ‹_›] at h
            cases hs : sizeOf? (rest.take n) with
            | none => rfl
            | some size =>
                cases size with
                | zero => rfl
                | succ size =>
                    rw [hs] at h
                    exact chunkStep_append h more

/-- A step over a line that has ended does not meet a cut line. -/
theorem not_cutLine_of_moved (h : d.step rest = .moved d' n) : ¬ CutLine rest := by
  intro hc
  unfold step at h
  rw [(lineLength?_of_cutLine hc).1] at h
  contradiction

theorem step_append_of_moved (h : d.step rest = .moved d' n) (more : Bytes) :
    d.step (rest ++ more) = .moved d' n := by
  rw [step_append (by rw [h]; exact Step.noConfusion)
    (fun hc => absurd hc (not_cutLine_of_moved h)), h]

/-- Decoding a chunk: the limits are kept and a line end follows the data. -/
theorem of_chunkStep_eq_moved {size u : Nat} {data : Bytes}
    (h : d.chunkStep n size data = .moved d' u) :
    d.total + size ≤ d.limit ∧ (∃ t, data.drop size = 13 :: 10 :: t) ∧ u = n + 2 + size + 2 ∧
      d' = { d with
        pos := d.pos + n + 2 + size + 2
        total := d.total + size
        latest := data.take size :: d.latest } := by
  unfold chunkStep at h
  dsimp only at h
  split at h
  · contradiction
  split at h
  · contradiction
  split at h
  · contradiction
  split at h
  · contradiction
  split at h
  · next t ht =>
      injection h with hd hu
      exact ⟨by omega, ⟨t, ht⟩, hu.symm, hd.symm⟩
  · contradiction
  · contradiction

/-- What a step that goes on can do: skip a line of the trailer, enter the
trailer, or decode a chunk. -/
theorem of_step_eq_moved {u : Nat} (h : d.step rest = .moved d' u) :
    ∃ n, lineLength? rest = .ok (some n) ∧
      ((d.inTrailers = true ∧ n ≠ 0 ∧ u = n + 2 ∧ d' = { d with pos := d.pos + n + 2 }) ∨
        (d.inTrailers = false ∧ sizeOf? (rest.take n) = some 0 ∧ u = n + 2 ∧
          d' = { d with pos := d.pos + n + 2, inTrailers := true }) ∨
        ∃ size, d.inTrailers = false ∧ sizeOf? (rest.take n) = some size ∧ 0 < size ∧
          d.chunkStep n size (rest.drop (n + 2)) = .moved d' u) := by
  unfold step at h
  split at h
  · contradiction
  · contradiction
  · next n hn =>
      refine ⟨n, hn, ?_⟩
      split at h
      · next ht =>
          dsimp only at h
          split at h
          · contradiction
          · next hz =>
              injection h with hd hu
              exact .inl ⟨ht, hz, hu.symm, hd.symm⟩
      · next ht =>
          rw [Bool.not_eq_true] at ht
          split at h
          · contradiction
          · next hs =>
              injection h with hd hu
              exact .inr (.inl ⟨ht, hs, hu.symm, hd.symm⟩)
          · next size hz hs =>
              exact .inr (.inr ⟨size, ht, hs, Nat.pos_of_ne_zero hz, h⟩)

/-- The last step of a body is over the empty line behind its trailer. -/
theorem of_step_eq_finished (h : d.step rest = .finished d') :
    d.inTrailers = true ∧ lineLength? rest = .ok (some 0) ∧ d' = { d with pos := d.pos + 2 } := by
  unfold step at h
  split at h
  · contradiction
  · contradiction
  · next n hn =>
      split at h
      · next ht =>
          dsimp only at h
          split at h
          · next hz =>
              subst hz
              injection h with h
              exact ⟨ht, hn, h.symm⟩
          · contradiction
      · exfalso
        split at h
        · contradiction
        · contradiction
        · unfold chunkStep at h
          dsimp only at h
          repeat' split at h
          all_goals contradiction

/-- A step moves the decoder by the bytes it used. -/
theorem pos_of_step {u : Nat} (h : d.step rest = .moved d' u) : d'.pos = d.pos + u := by
  obtain ⟨n, _, ⟨_, _, rfl, rfl⟩ | ⟨_, _, rfl, rfl⟩ | ⟨size, _, _, _, hc⟩⟩ := of_step_eq_moved h
  · rfl
  · rfl
  · obtain ⟨_, _, rfl, rfl⟩ := of_chunkStep_eq_moved hc
    simp only
    omega

theorem error_of_chunkStep {size : Nat} {data : Bytes}
    (h : d.chunkStep n size data = .failed e) :
    e = .invalidChunk ∨ (∃ k, e = .bodyTooLarge k) ∨ e = .outOfRange := by
  unfold chunkStep at h
  dsimp only at h
  split at h
  · injection h with h
    exact .inl h.symm
  split at h
  · injection h with h
    exact .inr (.inl ⟨_, h.symm⟩)
  split at h
  · injection h with h
    exact .inl h.symm
  split at h
  · injection h with h
    exact .inr (.inr h.symm)
  split at h
  · contradiction
  · injection h with h
    exact .inl h.symm
  · contradiction

/-- The errors of a step: a malformed chunk, too much data, or an offset that no
word holds. -/
theorem error_of_step (h : d.step rest = .failed e) :
    e = .invalidChunk ∨ (∃ k, e = .bodyTooLarge k) ∨ e = .outOfRange := by
  unfold step at h
  split at h
  · next e' hl =>
      injection h with h
      exact .inl (h ▸ (lineLength?_eq_error hl).1)
  · contradiction
  · split at h
    · dsimp only at h
      split at h <;> contradiction
    · split at h
      · injection h with h
        exact .inl h.symm
      · contradiction
      · exact error_of_chunkStep h

/-! ## Runs -/

/-- How a decoder in front of some bytes gets to a later place: step by step. -/
inductive Reaches : Decoder → Bytes → Decoder → Bytes → Prop where
  | refl (d : Decoder) (rest : Bytes) : Reaches d rest d rest
  | moved {d d₁ d' : Decoder} {rest rest' : Bytes} {n : Nat} :
      d.step rest = .moved d₁ n → Reaches d₁ (rest.drop n) d' rest' → Reaches d rest d' rest'

/-- What is reached lies behind the bytes that the decoder has moved over. -/
theorem Reaches.drop (h : Reaches d rest d' rest') :
    ∃ c ≤ rest.length, rest' = rest.drop c ∧ d'.pos = d.pos + c := by
  induction h with
  | refl d rest => exact ⟨0, Nat.zero_le _, rfl, rfl⟩
  | @moved d d₁ d' rest rest' n hs _ ih =>
      obtain ⟨c, hc, hr, hp⟩ := ih
      have hn := (used_of_step hs).2
      rw [List.length_drop] at hc
      refine ⟨n + c, by omega, by rw [hr, List.drop_drop], ?_⟩
      rw [hp, pos_of_step hs, Nat.add_assoc]

/-- The same places are reached when more bytes follow. -/
theorem Reaches.append (h : Reaches d rest d' rest') (more : Bytes) :
    Reaches d (rest ++ more) d' (rest' ++ more) := by
  induction h with
  | refl d rest => exact .refl d _
  | moved hs _ ih =>
      refine .moved (step_append_of_moved hs more) ?_
      rw [List.drop_append_of_le_length (used_of_step hs).2]
      exact ih

/-- A run may be taken up at any place it reaches. -/
theorem Reaches.run_eq (h : Reaches d rest d' rest') : d.run rest = d'.run rest' := by
  induction h with
  | refl => rfl
  | moved hs _ ih =>
      rw [← ih, run]
      split <;> simp_all

theorem run_of_starved (h : d.step rest = .starved) : d.run rest = (.ok none, d) := by
  rw [run]
  split <;> simp_all

theorem run_of_failed (h : d.step rest = .failed e) : d.run rest = (.error e, d) := by
  rw [run]
  split <;> simp_all

theorem run_of_finished (h : d.step rest = .finished d') :
    d.run rest = (.ok (some d'.pos), d') := by
  rw [run]
  split <;> simp_all

/-- A run stops: starved, with a failure, or behind the trailer. -/
theorem exists_reaches_stop (d : Decoder) (rest : Bytes) :
    ∃ d₁ rest₁, Reaches d rest d₁ rest₁ ∧
      ((d₁.step rest₁ = .starved ∧ d.run rest = (.ok none, d₁)) ∨
        (∃ e, d₁.step rest₁ = .failed e ∧ d.run rest = (.error e, d₁)) ∨
        ∃ d', d₁.step rest₁ = .finished d' ∧ d.run rest = (.ok (some d'.pos), d')) := by
  fun_induction run d rest with
  | case1 d rest hs => exact ⟨d, rest, .refl d rest, .inl ⟨hs, rfl⟩⟩
  | case2 d rest e hs => exact ⟨d, rest, .refl d rest, .inr (.inl ⟨e, hs, rfl⟩)⟩
  | case3 d rest d' hs => exact ⟨d, rest, .refl d rest, .inr (.inr ⟨d', hs, rfl⟩)⟩
  | case4 d rest d' n hs ih =>
      obtain ⟨d₁, rest₁, hr, hstop⟩ := ih
      exact ⟨d₁, rest₁, .moved hs hr, hstop⟩

theorem error_of_run (h : (d.run rest).1 = .error e) :
    e = .invalidChunk ∨ (∃ k, e = .bodyTooLarge k) ∨ e = .outOfRange := by
  obtain ⟨d₁, rest₁, _, ⟨_, hs⟩ | ⟨e', hf, hs⟩ | ⟨_, _, hs⟩⟩ := exists_reaches_stop d rest
  · simp [hs] at h
  · obtain rfl : e' = e := by simpa [hs] using h
    exact error_of_step hf
  · simp [hs] at h

/-! ## Runs on a body that grows -/

/-- A complete body stays complete, and what follows it is not looked at. -/
theorem run_append_of_some {k : Nat} (h : d.run rest = (.ok (some k), d')) (more : Bytes) :
    d.run (rest ++ more) = (.ok (some k), d') := by
  obtain ⟨d₁, rest₁, hr, ⟨_, hs⟩ | ⟨_, _, hs⟩ | ⟨d₂, hf, hs⟩⟩ := exists_reaches_stop d rest
  · simp [h] at hs
  · simp [h] at hs
  · have hc : ¬ CutLine rest₁ := not_cutLine_of_lineLength? (of_step_eq_finished hf).2.1
    have hf' : d₁.step (rest₁ ++ more) = .finished d₂ := by
      rw [step_append (by rw [hf]; exact Step.noConfusion) (fun h => absurd h hc), hf]
    rw [(hr.append more).run_eq, run_of_finished hf', ← hs, h]

/-- The bytes that a complete body took are there. -/
theorem le_of_run {k : Nat} (h : d.run rest = (.ok (some k), d')) :
    d.pos + 2 ≤ k ∧ k ≤ d.pos + rest.length := by
  obtain ⟨d₁, rest₁, hr, ⟨_, hs⟩ | ⟨_, _, hs⟩ | ⟨d₂, hf, hs⟩⟩ := exists_reaches_stop d rest
  · simp [h] at hs
  · simp [h] at hs
  · obtain ⟨c, hc, rfl, hp⟩ := hr.drop
    obtain rfl : k = d₂.pos := by simpa [h] using congrArg Prod.fst hs
    obtain ⟨_, hn, rfl⟩ := of_step_eq_finished hf
    have hle := lineLength?_add_two_le hn
    rw [List.length_drop] at hle
    simp only
    omega

/-- The run has stopped in front of a line that is cut, and that is not refused
once its line end is whole. -/
def StopsAtCut (d : Decoder) (rest : Bytes) : Prop :=
  ∃ d₁ rest₁, Reaches d rest d₁ rest₁ ∧ CutLine rest₁ ∧
    d₁.step (rest₁ ++ [10]) ≠ .failed .invalidChunk

/-- A step in front of a cut line fails, whatever follows, when the whole line is
refused. -/
theorem step_append_of_cutLine (hc : CutLine rest)
    (h : d.step (rest ++ [10]) = .failed .invalidChunk) (more : Bytes) :
    d.step (rest ++ more) = .failed .invalidChunk := by
  have hline : ∀ more : Bytes, more.head? ≠ some 10 →
      d.step (rest ++ more) = .failed .invalidChunk := by
    intro more hx
    unfold step
    rw [lineLength?_append_of_error (lineLength?_of_cutLine hc).1 fun _ => hx]
  cases more with
  | nil => exact hline [] (by simp)
  | cons b more =>
      by_cases hb : b = 10
      · subst hb
        have hcut : ¬ CutLine (rest ++ [10]) := by
          intro hc'
          have h1 := hc.1
          have h2 := hc'.1
          rw [List.length_append, List.length_singleton] at h2
          omega
        rw [← List.singleton_append, ← List.append_assoc,
          step_append (by rw [h]; exact Step.noConfusion) (fun hc' => absurd hc' hcut), h]
      · exact hline (b :: more) (by simpa using hb)

/-- A refusal is final when no line is cut at the limit. -/
theorem run_append_of_error (h : (d.run rest).1 = .error e) (hc : ¬ StopsAtCut d rest)
    (more : Bytes) : (d.run (rest ++ more)).1 = .error e := by
  obtain ⟨d₁, rest₁, hr, ⟨_, hs⟩ | ⟨e', hf, hs⟩ | ⟨_, _, hs⟩⟩ := exists_reaches_stop d rest
  · simp [hs] at h
  · obtain rfl : e' = e := by simpa [hs] using h
    have hf' : d₁.step (rest₁ ++ more) = .failed e' := by
      by_cases hcut : CutLine rest₁
      · have hten : d₁.step (rest₁ ++ [10]) = .failed .invalidChunk :=
          Classical.byContradiction fun hne => hc ⟨d₁, rest₁, hr, hcut, hne⟩
        have hchunk : e' = .invalidChunk := by
          unfold step at hf
          rw [(lineLength?_of_cutLine hcut).1] at hf
          injection hf with hf
          exact hf.symm
        rw [hchunk]
        exact step_append_of_cutLine hcut hten more
      · rw [step_append (by rw [hf]; exact Step.noConfusion) (fun hc' => absurd hc' hcut), hf]
    rw [(hr.append more).run_eq, run_of_failed hf']
  · simp [hs] at h

theorem lineLength?_nil : lineLength? [] = .ok none := rfl

/-- A run that stops in front of a cut line is refused. -/
theorem run_of_stopsAtCut (h : StopsAtCut d rest) : (d.run rest).1 = .error .invalidChunk := by
  obtain ⟨d₁, rest₁, hr, hcut, _⟩ := h
  have hf : d₁.step rest₁ = .failed .invalidChunk := by
    unfold step
    rw [(lineLength?_of_cutLine hcut).1]
  rw [hr.run_eq, run_of_failed hf]

/-- The refusal of a cut line is taken back when the line end becomes whole. -/
theorem run_append_of_stopsAtCut (h : StopsAtCut d rest) :
    (d.run (rest ++ [10])).1 ≠ .error .invalidChunk := by
  obtain ⟨d₁, rest₁, hr, hcut, hten⟩ := h
  rw [(hr.append [10]).run_eq]
  cases hs : d₁.step (rest₁ ++ [10]) with
  | starved => simp [run_of_starved hs]
  | failed e =>
      rw [run_of_failed hs]
      rintro he
      obtain rfl : e = .invalidChunk := by simpa using he
      exact hten hs
  | finished d' => simp [run_of_finished hs]
  | moved d' n =>
      -- the line takes all bytes that are there
      have hlen : (rest₁ ++ [10]).length ≤ n := by
        obtain ⟨m, hm, hcase⟩ := of_step_eq_moved hs
        rw [(lineLength?_of_cutLine hcut).2] at hm
        obtain rfl : maxLine = m := by simpa using hm
        have hlen := hcut.1
        rw [List.length_append, List.length_singleton]
        obtain ⟨_, _, rfl, _⟩ | ⟨_, _, rfl, _⟩ | ⟨size, _, _, _, hchunk⟩ := hcase
        · omega
        · omega
        · obtain ⟨_, _, rfl, _⟩ := of_chunkStep_eq_moved hchunk
          omega
      have hrest : d'.step ((rest₁ ++ [10]).drop n) = .starved := by
        rw [List.drop_of_length_le hlen]
        unfold step
        rw [lineLength?_nil]
      rw [run]
      split <;> simp_all [run_of_starved]

/-! ## Lines that are shorter than they may be -/

/-- The length of the longest framing line that a run meets. -/
def longestLine (d : Decoder) (rest : Bytes) : Nat :=
  let here :=
    match lineLength? rest with
    | .ok (some n) => n
    | _ => 0
  match _h : d.step rest with
  | .moved d' n => max here (longestLine d' (rest.drop n))
  | _ => here
termination_by rest.length
decreasing_by
  have := used_of_step ‹d.step rest = .moved _ _›
  rw [List.length_drop]
  omega

theorem le_longestLine_of_reaches (h : Reaches d rest d' rest')
    (hl : lineLength? rest' = .ok (some n)) : n ≤ d.longestLine rest := by
  induction h with
  | refl d rest =>
      rw [longestLine, hl]
      split
      · exact Nat.le_max_left _ _
      · exact Nat.le_refl _
  | @moved d d₁ d' rest rest' u hs _ ih =>
      have hle := ih hl
      rw [longestLine]
      split
      · next heq =>
          obtain ⟨rfl, rfl⟩ := Step.moved.inj (hs.symm.trans heq)
          exact Nat.le_trans hle (Nat.le_max_right _ _)
      · next hne => exact absurd hs (hne _ _)

/-- With all lines shorter than they may be, the beginning of a body does not stop
at a cut line. -/
theorem not_stopsAtCut_of_longestLine {k : Nat}
    (h : d.run (rest ++ more) = (.ok (some k), d')) (hl : d.longestLine (rest ++ more) < maxLine) :
    ¬ StopsAtCut d rest := by
  rintro ⟨d₁, rest₁, hr, hcut, _⟩
  have hgrown := hr.append more
  by_cases hten : more.head? = some 10
  · obtain ⟨more', rfl⟩ : ∃ more', more = 10 :: more' := by
      cases more with
      | nil => simp at hten
      | cons b more' => exact ⟨more', by simpa using hten⟩
    have hwhole := lineLength?_append_of_some (lineLength?_of_cutLine hcut).2 more'
    rw [List.append_assoc, List.singleton_append] at hwhole
    have hle := le_longestLine_of_reaches hgrown hwhole
    omega
  · have hfail : d₁.step (rest₁ ++ more) = .failed .invalidChunk := by
      unfold step
      rw [lineLength?_append_of_error (lineLength?_of_cutLine hcut).1 fun _ => hten]
    rw [hgrown.run_eq, run_of_failed hfail] at h
    simp at h

/-! ## Bodies that grow -/

theorem decode_eq_run (h : d.pos ≤ body.length) : d.decode body = d.run (body.drop d.pos) := by
  unfold decode
  rw [if_neg (by omega)]

theorem error_of_decode (h : (d.decode body).1 = .error e) :
    e = .invalidChunk ∨ (∃ k, e = .bodyTooLarge k) ∨ e = .outOfRange := by
  unfold decode at h
  split at h
  · exact .inr (.inr (by simpa using h.symm))
  · exact error_of_run h

theorem pos_le_of_decode {o : Option Nat} (h : d.decode body = (.ok o, d')) :
    d.pos ≤ body.length := by
  rcases Nat.lt_or_ge body.length d.pos with hlt | hge
  · simp [decode, hlt] at h
  · exact hge

/-- A complete body stays complete. -/
theorem decode_append_of_some {k : Nat} (h : d.decode body = (.ok (some k), d')) (more : Bytes) :
    d.decode (body ++ more) = (.ok (some k), d') := by
  have hle := pos_le_of_decode h
  rw [decode_eq_run hle] at h
  rw [decode_eq_run (by rw [List.length_append]; omega), List.drop_append_of_le_length hle]
  exact run_append_of_some h more

/-- A decoder that ran out of bytes may be taken up where it stopped: it then
answers what it would have answered from the start. -/
theorem decode_resume (h : d.decode body = (.ok none, d')) (more : Bytes) :
    d'.decode (body ++ more) = d.decode (body ++ more) := by
  have hge := pos_le_of_decode h
  rw [decode_eq_run hge] at h
  obtain ⟨d₁, rest₁, hr, ⟨_, hs⟩ | ⟨_, _, hs⟩ | ⟨_, _, hs⟩⟩ :=
    exists_reaches_stop d (body.drop d.pos)
  · obtain rfl : d' = d₁ := by simpa [h] using congrArg Prod.snd hs
    obtain ⟨c, hc, rfl, hp⟩ := hr.drop
    rw [List.length_drop] at hc
    have hle : d'.pos ≤ body.length := by omega
    rw [decode_eq_run (by rw [List.length_append]; omega),
      decode_eq_run (by rw [List.length_append]; omega),
      List.drop_append_of_le_length hge, List.drop_append_of_le_length hle,
      (hr.append more).run_eq, List.drop_drop, ← hp]
  · simp [h] at hs
  · simp [h] at hs

end Decoder

end Chunked

end WebServer
