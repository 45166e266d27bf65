import WebServer.Proofs.WebSocket.Settling

/-!
# WebServer.Proofs.WebSocket.Arrival

Frames while their bytes arrive. A buffer is drained by reading frames off its front until one
is not all there, or is refused (`drain`); behind each read what is left is drained again
(`drainReads`), as a session does (`intake`).

Main statements: a frame is read back as soon as it is all there and not before
(`parse_encode_once_whole`), and how bytes were cut into reads makes no difference to the frames,
the error and the bytes left over (`drainReads_eq_drain`).
-/

namespace WebServer

namespace WebSocket

namespace Frame

variable {limit n : Nat} {buf bs more : Bytes} {f : Frame} {e : FrameError}

/-! ## One frame -/

/-- **A frame that is written is read back once it is all there**, whatever its payload and its
masking key and whatever follows it; nothing is read of a proper beginning of it. A limit is a
machine word. -/
theorem parse_encode_once_whole (hlimit : limit < UInt64.size) (hf : f.IsLegal limit)
    (key : Option MaskKey) :
    (∀ rest, parse (f.encode key ++ rest) limit =
      .ok (some ({ f with masked := key.isSome }, (f.encode key).length))) ∧
    ∀ p, p <+: f.encode key → p ≠ f.encode key → parse p limit = .ok none := by
  refine ⟨parse_encode_append hf hlimit key, fun p hp hne => ?_⟩
  have hlt : p.length < (f.encode key).length :=
    Nat.lt_of_le_of_ne hp.length_le fun hlen => hne (hp.eq_of_length hlen)
  exact parse_of_prefix_encode hf hlimit hp hlt

/-- A payload of 126 bytes takes two more bytes for its length. It is read back although other
bytes follow, and nothing is read of a buffer that ends inside the masking key. -/
theorem parse_encode_once_whole_of_extended :
    let f := Frame.binary (List.replicate 126 7)
    let key := MaskKey.mk 1 2 3 4
    200 < UInt64.size ∧ f.IsLegal 200 ∧
      parse (f.encode (some key) ++ [0x81]) 200 =
        .ok (some ({ f with masked := true }, (f.encode (some key)).length)) ∧
      parse [0x82, 0xFE, 0, 126, 1, 2] 200 = .ok none := by
  intro f key
  have hlegal : f.IsLegal 200 := by
    constructor <;> simp [f, Frame.binary, Opcode.isControl]
  obtain ⟨hwhole, hprefix⟩ := parse_encode_once_whole (by decide) hlegal (some key)
  exact ⟨by decide, hlegal, hwhole [0x81], hprefix _ (by decide +kernel) (by decide +kernel)⟩

/-! ## Draining a buffer -/

/-- The bytes that are left over when frames are read from the front of a byte string. -/
def leftOver (limit : Nat) (bs : Bytes) : Bytes :=
  match _h : parse bs limit with
  | .ok (some (_, n)) => leftOver limit (bs.drop n)
  | _ => bs
termination_by bs.length
decreasing_by
  have hread := isRead_of_parse _h
  have htwo := hread.two_le
  have hle := hread.le_length
  rw [List.length_drop]
  omega

/-- What draining a buffer comes to. -/
structure Drained where
  frames : List Frame
  /-- Why the bytes left over are refused, if they are. -/
  error? : Option FrameError
  /-- The bytes behind the last frame. -/
  rest : Bytes
deriving DecidableEq

namespace Drained

/-- Frames were read before. -/
def behind (fs : List Frame) (d : Drained) : Drained := { d with frames := fs ++ d.frames }

/-- Bytes come in that nobody reads any more. -/
def followedBy (d : Drained) (bs : Bytes) : Drained := { d with rest := d.rest ++ bs }

variable {fs gs : List Frame} {d : Drained} {bs : Bytes}

@[simp] theorem frames_behind : (d.behind fs).frames = fs ++ d.frames := rfl

@[simp] theorem error?_behind : (d.behind fs).error? = d.error? := rfl

@[simp] theorem rest_behind : (d.behind fs).rest = d.rest := rfl

@[simp] theorem behind_nil : d.behind [] = d := rfl

theorem behind_behind : (d.behind gs).behind fs = d.behind (fs ++ gs) := by
  simp [behind]

theorem followedBy_behind : (d.behind fs).followedBy bs = (d.followedBy bs).behind fs := rfl

end Drained

/-- Reads frames off the front of a buffer. -/
def drain (limit : Nat) (bs : Bytes) : Drained where
  frames := (readAll limit bs).1
  error? := (readAll limit bs).2
  rest := leftOver limit bs

/-- Drains a buffer, and again behind each read. Nothing is read behind an error. -/
def drainReads (limit : Nat) (buf : Bytes) : List Bytes → Drained
  | [] => drain limit buf
  | bs :: reads =>
      let d := drain limit buf
      if d.error?.isSome then d.followedBy (bs :: reads).flatten
      else (drainReads limit (d.rest ++ bs) reads).behind d.frames

theorem leftOver_eq_self (h : ∀ f n, parse bs limit ≠ .ok (some (f, n))) :
    leftOver limit bs = bs := by
  rw [leftOver]
  split
  · next f n hparse => exact absurd hparse (h f n)
  · rfl

theorem drain_of_error (h : parse bs limit = .error e) : drain limit bs = ⟨[], some e, bs⟩ := by
  rw [drain, readAll_of_error h, leftOver_eq_self (by simp [h])]

theorem drain_of_none (h : parse bs limit = .ok none) : drain limit bs = ⟨[], none, bs⟩ := by
  rw [drain, readAll_of_none h, leftOver_eq_self (by simp [h])]

theorem drain_of_some (h : parse bs limit = .ok (some (f, n))) :
    drain limit bs = (drain limit (bs.drop n)).behind [f] := by
  have hleft : leftOver limit bs = leftOver limit (bs.drop n) := by
    conv_lhs => rw [leftOver]
    split
    · next h' =>
        rw [h] at h'
        obtain ⟨rfl, rfl⟩ : f = _ ∧ n = _ := by simpa using h'
        rfl
    · next h' => exact absurd h (h' f n)
  rw [drain, readAll_of_some h, hleft]
  rfl

/-- What is proved of a buffer from the bytes behind its first frame is proved of all buffers. -/
theorem draining_induction {motive : Bytes → Prop} (limit : Nat)
    (h : ∀ bs, (∀ f n, parse bs limit = .ok (some (f, n)) → motive (bs.drop n)) → motive bs)
    (bs : Bytes) : motive bs := by
  induction hn : bs.length using Nat.strongRecOn generalizing bs with
  | ind m ih =>
      refine h bs fun f n hparse => ih _ ?_ _ rfl
      have hread := isRead_of_parse hparse
      have htwo := hread.two_le
      have hle := hread.le_length
      rw [List.length_drop]
      omega

/-! ## Bytes that arrive later -/

/-- Draining goes on where it has stopped when bytes arrive, unless it was stopped by an
error. -/
theorem drain_append (limit : Nat) (bs more : Bytes) :
    drain limit (bs ++ more) =
      if (drain limit bs).error?.isSome then (drain limit bs).followedBy more
      else (drain limit ((drain limit bs).rest ++ more)).behind (drain limit bs).frames := by
  induction bs using draining_induction limit with
  | h bs ih =>
      match hparse : parse bs limit with
      | .error e =>
          rw [drain_of_error hparse, drain_of_error (parse_append_of_error hparse more)]
          rfl
      | .ok none =>
          rw [drain_of_none hparse]
          rfl
      | .ok (some (f, n)) =>
          have hdrop : (bs ++ more).drop n = bs.drop n ++ more :=
            List.drop_append_of_le_length (isRead_of_parse hparse).le_length
          rw [drain_of_some hparse, drain_of_some (parse_append_of_some hparse more), hdrop,
            ih f n hparse, Drained.error?_behind]
          split
          · rw [Drained.followedBy_behind]
          · rw [Drained.behind_behind, Drained.rest_behind, Drained.frames_behind]

/-- What holds of two buffers still holds when the same bytes arrive behind both. -/
theorem drain_append_congr {fs : List Frame} {bs' : Bytes}
    (h : drain limit bs = (drain limit bs').behind fs) (more : Bytes) :
    drain limit (bs ++ more) = (drain limit (bs' ++ more)).behind fs := by
  rw [drain_append, drain_append limit bs', h, Drained.error?_behind]
  split
  · rw [Drained.followedBy_behind]
  · rw [Drained.behind_behind, Drained.rest_behind, Drained.frames_behind]

/-- How bytes are cut into reads makes no difference. -/
theorem drainReads_eq (limit : Nat) (buf : Bytes) (reads : List Bytes) :
    drainReads limit buf reads = drain limit (buf ++ reads.flatten) := by
  induction reads generalizing buf with
  | nil => rw [drainReads, List.flatten_nil, List.append_nil]
  | cons bs reads ih =>
      rw [drainReads, drain_append, ih, List.flatten_cons, List.append_assoc]

end Frame

/-! ## Sessions -/

namespace Session

variable {cfg : SessionConfig} {s s' : Session} {f : Frame}

/-- The frame that a session takes next. -/
def taking (cfg : SessionConfig) (s : Session) : List Frame :=
  match Frame.parse s.buffer cfg.limit with
  | .ok (some (f, _)) => [f]
  | _ => []

/-- The bytes that a session reads next: it waits for some when no frame is all there. -/
def reading (cfg : SessionConfig) (s : Session) : List Bytes :=
  match Frame.parse s.buffer cfg.limit, (s.outbox.receive (s.deadline cfg)).1 with
  | .ok none, .arrived (.bytes bs) => [bs]
  | _, _ => []

/-- The frames that a session takes until its reading ends, and the pieces in which it reads
its bytes. -/
def intake (cfg : SessionConfig) (s : Session) : List Frame × List Bytes :=
  match _h : step cfg s with
  | (none, s') => (s.taking cfg ++ (intake cfg s').1, s.reading cfg ++ (intake cfg s').2)
  | (some _, _) => (s.taking cfg, s.reading cfg)
termination_by s.size
decreasing_by all_goals exact size_step _h

theorem intake_of_none (h : step cfg s = (none, s')) :
    intake cfg s = (s.taking cfg ++ (intake cfg s').1, s.reading cfg ++ (intake cfg s').2) := by
  rw [intake]
  split <;> simp_all

theorem intake_of_some {stop : ReadStop} (h : step cfg s = (some stop, s')) :
    intake cfg s = (s.taking cfg, s.reading cfg) := by
  rw [intake]
  split <;> simp_all

theorem buffer_fail (s : Session) (code : UInt16) : (s.fail code).2.buffer = s.buffer := by
  rw [fail_snd]

theorem buffer_afterDelivery (r : Option HookEnd × Session) :
    (afterDelivery r).2.buffer = r.2.buffer := by
  unfold afterDelivery
  split
  · rfl
  · rfl
  · exact buffer_fail _ _

/-- Handling a frame leaves the bytes behind it alone. -/
theorem buffer_onData (cfg : SessionConfig) (s : Session) (f : Frame) :
    (onData cfg s f).2.buffer = s.buffer := by
  have hclaim : ∀ given s₁, s.claim cfg f = some (given, s₁) → s₁.buffer = s.buffer := by
    intro given s₁ h
    unfold claim at h
    split at h
    · contradiction
    · obtain ⟨_, rfl⟩ := Prod.mk.inj (Option.some.inj h)
      rfl
  unfold onData
  split
  · rfl
  · next code s₁ h => exact (buffer_fail s₁.endCycle code).trans (hclaim _ s₁ h)
  · next s₁ h => exact hclaim _ s₁ h
  · next d s₁ h => exact (buffer_afterDelivery (handOver cfg s₁ d)).trans (hclaim _ s₁ h)

theorem buffer_onFrame (cfg : SessionConfig) (s : Session) (f : Frame) :
    (onFrame cfg s f).2.buffer = s.buffer := by
  unfold onFrame
  split
  · exact buffer_fail s _
  · split
    · rw [sendControl_snd]
    · rfl
    · show (s.onClose f).2.buffer = s.buffer
      rw [onClose_snd]
      split <;> rfl
    all_goals exact buffer_onData cfg s f

/-- A step takes the frame that is in front of the buffer, or reads what is draining next. -/
theorem drain_step (cfg : SessionConfig) (s : Session) :
    Frame.drain cfg.limit (s.buffer ++ (s.reading cfg).flatten) =
      (Frame.drain cfg.limit (step cfg s).2.buffer).behind (s.taking cfg) := by
  unfold step reading taking
  match hparse : Frame.parse s.buffer cfg.limit with
  | .error e =>
      simp [buffer_fail]
  | .ok none =>
      rw [readMore_eq]
      generalize s.outbox.receive (s.deadline cfg) = got
      obtain ⟨got, o⟩ := got
      cases got with
      | arrived a => cases a <;> simp [afterRead]
      | interrupted | timeout | stuck => simp [afterRead]
  | .ok (some (f, n)) =>
      have hbuffer : (onFrame cfg (s.consume n) f).2.buffer = s.buffer.drop n :=
        buffer_onFrame cfg (s.consume n) f
      simp [hbuffer, Frame.drain_of_some hparse]

/-- The loop of a session drains its buffer behind each read, until something ends it. -/
theorem drainReads_intake (cfg : SessionConfig) (s : Session) :
    Frame.drainReads cfg.limit s.buffer (s.intake cfg).2 =
      (Frame.drain cfg.limit (readAll cfg s).2.buffer).behind (s.intake cfg).1 := by
  rw [Frame.drainReads_eq]
  induction s using reading_induction cfg with
  | h s ih =>
      have hstep := drain_step cfg s
      rw [readAll_eq]
      match hs : step cfg s with
      | (none, s') =>
          rw [hs] at hstep
          rw [intake_of_none hs, List.flatten_append, ← List.append_assoc,
            Frame.drain_append_congr hstep, ih s' hs, Frame.Drained.behind_behind]
      | (some stop, s') =>
          rw [hs] at hstep
          rw [intake_of_some hs]
          exact hstep

end Session

/-! ## How bytes arrive -/

/-- **Reading frames does not depend on how their bytes arrive.** What is decided about a
buffer, be it a frame or an error, stays decided when bytes are added, and a frame takes two
bytes at least and none that is not there. So draining after each read gives the same frames,
the same first error and the same bytes left over as draining all bytes at once; and this is
what the loop of every session does, up to the frame that ends it. -/
theorem drainReads_eq_drain (limit : Nat) :
    (∀ buf more, Frame.parse buf limit ≠ .ok none →
      Frame.parse (buf ++ more) limit = Frame.parse buf limit) ∧
    (∀ buf f n, Frame.parse buf limit = .ok (some (f, n)) → 2 ≤ n ∧ n ≤ buf.length) ∧
    (∀ buf reads, Frame.drainReads limit buf reads = Frame.drain limit (buf ++ reads.flatten)) ∧
    ∀ (cfg : SessionConfig) (s : Session),
      Frame.drainReads cfg.limit s.buffer (s.intake cfg).2 =
        (Frame.drain cfg.limit (Session.readAll cfg s).2.buffer).behind (s.intake cfg).1 := by
  refine ⟨fun buf more h => Frame.parse_append h more, fun buf f n h => ?_,
    Frame.drainReads_eq limit, Session.drainReads_intake⟩
  have hread := Frame.isRead_of_parse h
  exact ⟨hread.two_le, hread.le_length⟩

/-- A masked text and a frame with a reserved bit, in four reads: one ends inside the key, and
one behind the first byte of the second frame. -/
theorem drainReads_eq_drain_of_reserved_bit :
    let hi : Bytes := [0x81, 0x82, 1, 2, 3, 4, 0x69, 0x6B]
    let reads : List Bytes := [[0x81], [0x82, 1, 2, 3], [4, 0x69, 0x6B, 0x91], [0, 7]]
    let f : Frame := { opcode := .text, masked := true, payload := [0x68, 0x69] }
    Frame.parse hi 5 = .ok (some (f, 8)) ∧ (2 ≤ 8 ∧ 8 ≤ hi.length) ∧
      Frame.parse (hi ++ [0x91, 0, 7]) 5 = .ok (some (f, 8)) ∧
      Frame.parse [0x91, 0] 5 = .error .reservedBits ∧
      Frame.parse ([0x91, 0] ++ [7]) 5 = .error .reservedBits ∧
      Frame.drainReads 5 [] reads = ⟨[f], some .reservedBits, [0x91, 0, 7]⟩ := by
  intro hi reads f
  obtain ⟨hstays, hused, hcut, _⟩ := drainReads_eq_drain 5
  have hparse : Frame.parse hi 5 = .ok (some (f, 8)) := by decide
  have herror : Frame.parse [0x91, 0] 5 = .error .reservedBits := by decide
  have hparse' := (hstays hi [0x91, 0, 7] (by simp [hparse])).trans hparse
  have herror' := (hstays [0x91, 0] [7] (by simp [herror])).trans herror
  refine ⟨hparse, hused hi f 8 hparse, hparse', herror, herror', ?_⟩
  exact (hcut [] reads).trans ((Frame.drain_of_some hparse').trans
    (congrArg (Frame.Drained.behind [f]) (Frame.drain_of_error herror')))

end WebSocket

end WebServer
