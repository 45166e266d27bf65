import Mathlib.Data.List.Induction
import WebServer.Proofs.Chunked.Growth

/-!
# WebServer.Proofs.Chunked.Resume

A decoder that is asked again and again while a body arrives, and whose chunks are taken away in
between. The chunks that were taken have no part in decoding (`decode_behind`), so a decoder whose
chunks were taken stands where one stands that was never asked before (`Resumes`).

Main statement: each decoding answers what a new decoder answers, and no chunk is lost or taken
twice (`serve_eq_fresh`).
-/

namespace WebServer

namespace Chunked

namespace Decoder

variable {d d' : Decoder} {taken : List Bytes} {rest body : Bytes} {limit m n : Nat}

/-! ## Chunks that were taken -/

/-- The decoder before some chunks were taken from it. -/
def behind (taken : List Bytes) (d : Decoder) : Decoder :=
  { d with latest := d.latest ++ taken.reverse }

/-- The step before some chunks were taken. -/
def Step.behind (taken : List Bytes) : Step → Step
  | .starved => .starved
  | .failed e => .failed e
  | .finished d => .finished (d.behind taken)
  | .moved d n => .moved (d.behind taken) n

theorem chunks_behind (taken : List Bytes) (d : Decoder) :
    (d.behind taken).chunks = taken ++ d.chunks := by
  simp [chunks, behind]

theorem chunkStep_behind (taken : List Bytes) (d : Decoder) (n size : Nat) (data : Bytes) :
    (d.behind taken).chunkStep n size data = (d.chunkStep n size data).behind taken := by
  show chunkStep { d with latest := d.latest ++ taken.reverse } n size data = _
  unfold chunkStep
  dsimp only
  split
  · rfl
  split
  · rfl
  split
  · rfl
  split
  · rfl
  split <;> rfl

theorem step_behind (taken : List Bytes) (d : Decoder) (rest : Bytes) :
    (d.behind taken).step rest = (d.step rest).behind taken := by
  show step { d with latest := d.latest ++ taken.reverse } rest = _
  unfold step
  dsimp only
  split
  · rfl
  · rfl
  · split
    · split <;> rfl
    · split
      · rfl
      · rfl
      · exact chunkStep_behind taken d _ _ _

theorem run_of_moved (h : d.step rest = .moved d' n) : d.run rest = d'.run (rest.drop n) :=
  (Reaches.moved h (.refl d' _)).run_eq

/-- Chunks that were taken have no part in decoding. -/
theorem run_behind (taken : List Bytes) (d : Decoder) (rest : Bytes) :
    (d.behind taken).run rest = ((d.run rest).1, (d.run rest).2.behind taken) := by
  fun_induction run d rest with
  | case1 d rest hs => exact run_of_starved (by rw [step_behind, hs]; rfl)
  | case2 d rest e hs => exact run_of_failed (by rw [step_behind, hs]; rfl)
  | case3 d rest d' hs =>
      have hend : (d.behind taken).step rest = .finished (d'.behind taken) := by
        rw [step_behind, hs]
        rfl
      exact run_of_finished hend
  | case4 d rest d' n hs ih =>
      rw [← ih]
      exact run_of_moved (by rw [step_behind, hs]; rfl)

theorem decode_behind (taken : List Bytes) (d : Decoder) (body : Bytes) :
    (d.behind taken).decode body = ((d.decode body).1, (d.decode body).2.behind taken) := by
  show decode { d with latest := d.latest ++ taken.reverse } body = _
  unfold decode
  dsimp only
  split
  · rfl
  · exact run_behind taken d _

/-! ## Calls -/

/-- What can be asked of a decoder while a body arrives. -/
inductive Call where
  /-- Decode the first `n` bytes. -/
  | decode (n : Nat)
  /-- Hand over the decoded chunks. -/
  | take
deriving DecidableEq

/-- How much of the body has arrived, when the call is to decode it. -/
def Call.arrived? : Call → Option Nat
  | .decode n => some n
  | .take => none

/-- What calls have come to. -/
structure Served where
  /-- The answers of the decodings, in order. -/
  answers : List (Except ParseError (Option Nat)) := []
  /-- The chunks that were handed over, in order. -/
  taken : List Bytes := []
  decoder : Decoder

/-- One more call. -/
def Served.call (body : Bytes) (s : Served) : Call → Served
  | .decode n =>
      let (answer, decoder) := s.decoder.decode (body.take n)
      { s with answers := s.answers ++ [answer], decoder }
  | .take =>
      let (chunks, decoder) := s.decoder.takeChunks
      { s with taken := s.taken ++ chunks, decoder }

/-- Calls of a new decoder, one after the other. -/
def serve (limit : Nat) (body : Bytes) (calls : List Call) : Served :=
  calls.foldl (Served.call body) { decoder := { limit } }

variable {s : Served} {calls : List Call}

theorem serve_append (limit : Nat) (body : Bytes) (calls calls' : List Call) :
    serve limit body (calls ++ calls') =
      calls'.foldl (Served.call body) (serve limit body calls) :=
  List.foldl_append

/-! ## Standing where a new decoder would stand -/

/-- A new decoder that is given the first `m` bytes wants more of them, and would then stand where
the decoder stands, had nothing been taken from it. -/
def Resumes (limit : Nat) (body : Bytes) (m : Nat) (s : Served) : Prop :=
  ({ limit } : Decoder).decode (body.take m) = (.ok none, s.decoder.behind s.taken)

theorem resumes_start (limit : Nat) (body : Bytes) :
    Resumes limit body 0 { decoder := { limit } } := by
  unfold Resumes
  rw [List.take_zero, decode_eq_run (Nat.le_refl _)]
  exact run_of_starved rfl

/-- More bytes are decoded as a new decoder does it. -/
theorem Resumes.decode_eq (h : Resumes limit body m s) (hle : m ≤ n) :
    ({ limit } : Decoder).decode (body.take n) =
      ((s.decoder.decode (body.take n)).1, (s.decoder.decode (body.take n)).2.behind s.taken) := by
  have hgrown : body.take n = body.take m ++ (body.drop m).take (n - m) := by
    rw [← List.take_add, Nat.add_sub_cancel' hle]
  have hresume := decode_resume h ((body.drop m).take (n - m))
  rw [← hgrown, decode_behind] at hresume
  exact hresume.symm

/-- Chunks that are taken are still counted once. -/
theorem behind_takeChunks (taken : List Bytes) (d : Decoder) :
    d.takeChunks.2.behind (taken ++ d.takeChunks.1) = d.behind taken := by
  simp [takeChunks, behind, chunks]

theorem Resumes.take (h : Resumes limit body m s) : Resumes limit body m (s.call body .take) := by
  unfold Resumes at h ⊢
  rw [h]
  exact congrArg (Prod.mk _) (behind_takeChunks s.taken s.decoder).symm

theorem foldl_take (body : Bytes) (s : Served) (k : Nat) :
    ((List.replicate k Call.take).foldl (Served.call body) s).answers = s.answers ∧
      ((List.replicate k Call.take).foldl (Served.call body) s).decoder.behind
          ((List.replicate k Call.take).foldl (Served.call body) s).taken =
        s.decoder.behind s.taken := by
  induction k generalizing s with
  | zero => exact ⟨rfl, rfl⟩
  | succ k ih =>
      obtain ⟨hanswers, hbehind⟩ := ih (s.call body .take)
      exact ⟨hanswers, hbehind.trans (behind_takeChunks s.taken s.decoder)⟩

/-! ## A body that arrives -/

/-- A call to decode more than was decoded before leaves the decoder where a new one would stand. -/
theorem Resumes.decode (h : Resumes limit body m s) (hle : m ≤ n)
    (hnone : (s.decoder.decode (body.take n)).1 = .ok none) :
    Resumes limit body n (s.call body (.decode n)) := by
  unfold Resumes
  rw [h.decode_eq hle, hnone]
  rfl

theorem serve_concat (limit : Nat) (body : Bytes) (calls : List Call) (c : Call) :
    serve limit body (calls ++ [c]) = (serve limit body calls).call body c :=
  serve_append limit body calls [c]

/-- While every decoding wants more bytes, a decoder that is asked of ever longer beginnings stands
where a new one would stand, behind a beginning that no later one falls short of. -/
theorem exists_resumes_serve (hgrows : (calls.filterMap Call.arrived?).Pairwise (· ≤ ·))
    (hnone : ∀ a ∈ (serve limit body calls).answers, a = .ok none) :
    ∃ m, (∀ n, (∀ l ∈ calls.filterMap Call.arrived?, l ≤ n) → m ≤ n) ∧
      Resumes limit body m (serve limit body calls) := by
  induction calls using List.reverseRecOn with
  | nil => exact ⟨0, fun n _ => Nat.zero_le n, resumes_start limit body⟩
  | append_singleton calls c ih =>
      rw [List.filterMap_append, List.pairwise_append] at hgrows
      rw [serve_concat] at hnone ⊢
      cases c with
      | take =>
          obtain ⟨m, hle, hresumes⟩ := ih hgrows.1 hnone
          refine ⟨m, fun n hn => hle n fun l hl => hn l ?_, hresumes.take⟩
          rw [List.filterMap_append]
          exact List.mem_append_left _ hl
      | decode n =>
          obtain ⟨hbefore, hanswer⟩ := List.forall_mem_append.1 hnone
          obtain ⟨m, hle, hresumes⟩ := ih hgrows.1 hbefore
          have hmn : m ≤ n := hle n fun l hl => hgrows.2.2 l hl n (by simp [Call.arrived?])
          refine ⟨n, fun n' hn' => hn' n (by simp [Call.arrived?]), hresumes.decode hmn ?_⟩
          exact hanswer _ List.mem_cons_self

/-- **A decoder that is taken up again is as good as a new one.** Ever longer beginnings of a body
are decoded, and chunks taken away in between, and so far more bytes were wanted each time. Then
the next decoding answers what a new decoder answers that is given this beginning alone, and the
chunks that were taken, with those still to be taken, are the chunks of the new decoder. -/
theorem serve_eq_fresh (limit : Nat) (body : Bytes) (calls : List Call) (n takes : Nat)
    (hgrows : (calls.filterMap Call.arrived? ++ [n]).Pairwise (· ≤ ·))
    (hnone : ∀ a ∈ (serve limit body calls).answers, a = .ok none) :
    let s := serve limit body (calls ++ .decode n :: List.replicate takes .take)
    let (answer, fresh) := ({ limit } : Decoder).decode (body.take n)
    s.answers = (serve limit body calls).answers ++ [answer] ∧
      s.taken ++ s.decoder.takeChunks.1 = fresh.chunks := by
  obtain ⟨hgrows, -, hlast⟩ := List.pairwise_append.1 hgrows
  obtain ⟨m, hle, hresumes⟩ := exists_resumes_serve hgrows hnone
  have hmn : m ≤ n := hle n fun l hl => hlast l hl n List.mem_cons_self
  have hfresh := hresumes.decode_eq hmn
  obtain ⟨hanswers, hbehind⟩ :=
    foldl_take body ((serve limit body calls).call body (.decode n)) takes
  rw [serve_append, List.foldl_cons, hfresh]
  refine ⟨hanswers, ?_⟩
  have hchunks := congrArg Decoder.chunks hbehind
  rw [chunks_behind, chunks_behind] at hchunks
  dsimp only [takeChunks]
  rw [hchunks, chunks_behind]
  rfl

/-- One chunk, and its end, in pieces: the size line alone, the chunk, half of the next line end,
and the rest. The chunk is taken once, and is not there at the end. -/
theorem serve_eq_fresh_of_pieces :
    let body : Bytes := [49, 13, 10, 97, 13, 10, 48, 13, 10, 13, 10]
    let calls : List Call := [.decode 3, .take, .decode 6, .take, .decode 8]
    let s := serve 8 body (calls ++ [.decode 11, .take])
    ((calls.filterMap Call.arrived? ++ [11]).Pairwise (· ≤ ·) ∧
      ∀ a ∈ (serve 8 body calls).answers, a = .ok none) ∧
      s.answers = [.ok none, .ok none, .ok none, .ok (some 11)] ∧
      s.taken ++ s.decoder.takeChunks.1 = [[97]] := by
  intro body calls s
  have hgrows : (calls.filterMap Call.arrived? ++ [11]).Pairwise (· ≤ ·) := by decide
  have hanswers : (serve 8 body calls).answers = [.ok none, .ok none, .ok none] := by
    decide +kernel
  have hnone : ∀ a ∈ (serve 8 body calls).answers, a = .ok none := by simp [hanswers]
  have hdecode : ({ limit := 8 } : Decoder).decode (body.take 11) =
      (.ok (some 11), ⟨8, 11, 1, true, [[97]]⟩) := by decide +kernel
  have hfresh := serve_eq_fresh 8 body calls 11 1 hgrows hnone
  rw [hdecode, hanswers] at hfresh
  exact ⟨⟨hgrows, hnone⟩, hfresh⟩

end Decoder

end Chunked

end WebServer
