import WebServer.Proofs.WebSocket.Frame
import WebServer.WebSocket.Message

/-!
# WebServer.Proofs.WebSocket.Transcript

What a client says. `transcript` computes it from the client's bytes alone, without a
session: the messages that the frames carry, whole and in order, and what ends them. How
the bytes were cut into pieces has no part in it.

Main statement: a reassembler answers each data frame with what the transcript says of it
(`answers_push`).
-/

namespace WebServer

namespace WebSocket

/-- What ends the messages of a client. -/
inductive Ending where
  /-- The client closes, with a code or without. -/
  | closed (code : Option UInt16)
  /-- The client breaks the protocol. -/
  | broken (e : FrameError)
  /-- The client has said all. -/
  | left
deriving DecidableEq

namespace Ending

/-- The code with which the session ends. -/
def code : Ending → UInt16
  | .closed code => code.getD CloseCode.noStatus
  | .broken e => e.closeCode
  | .left => CloseCode.goingAway

/-- Whether the closing handshake has begun when the session ends. -/
def isClosing : Ending → Bool
  | .closed _ | .broken _ => true
  | .left => false

/-- How bytes end behind their last frame. -/
def ofError? : Option FrameError → Ending
  | some e => .broken e
  | none => .left

end Ending

/-! ## Frames -/

/-- The message that a data frame begins, or goes on with: its kind and its bytes so far.
The first argument is the message that has begun before. -/
def joined (limit : Nat) : Option (Kind × Bytes) → Frame → Except FrameError (Kind × Bytes)
  | none, f =>
      match f.opcode with
      | .text => .ok (.text, f.payload)
      | .binary => .ok (.binary, f.payload)
      | _ => .error .unexpectedContinuation
  | some (kind, data), f =>
      if f.opcode ≠ .continuation then .error .interleavedMessage
      else if limit < (data ++ f.payload).length then .error (.tooLarge limit)
      else .ok (kind, data ++ f.payload)

/-- What a data frame says: the message that it completes, if it does, and the one that has
begun behind it. -/
def said (limit : Nat) (begun : Option (Kind × Bytes)) (f : Frame) :
    Except FrameError (Option Message × Option (Kind × Bytes)) :=
  match joined limit begun f with
  | .error e => .error e
  | .ok (kind, data) =>
      if f.fin then (Message.ofData kind data).map fun m => (some m, none)
      else .ok (none, some (kind, data))

/-- What a frame of a client says, or how it ends the session. -/
def heard (limit : Nat) (begun : Option (Kind × Bytes)) (f : Frame) :
    Except Ending (Option Message × Option (Kind × Bytes)) :=
  if !f.masked then .error (.broken .unmasked)
  else
    match f.opcode with
    | .close => .error (.closed f.closeCode?)
    | .ping | .pong => .ok (none, begun)
    | .text | .binary | .continuation => (said limit begun f).mapError .broken

/-- The messages that frames carry, up to what ends the session. Behind the last frame it
ends with `ending`. -/
def transcriptOf (limit : Nat) (ending : Ending) :
    Option (Kind × Bytes) → List Frame → List Message × Ending
  | _, [] => ([], ending)
  | begun, f :: fs =>
      match heard limit begun f with
      | .error e => ([], e)
      | .ok (m?, begun) =>
          let (ms, e) := transcriptOf limit ending begun fs
          (m?.toList ++ ms, e)

/-- The messages that bytes carry behind a message that has begun, and what ends them. -/
def transcript (limit : Nat) (begun : Option (Kind × Bytes)) (bs : Bytes) :
    List Message × Ending :=
  let (fs, e?) := Frame.readAll limit bs
  transcriptOf limit (.ofError? e?) begun fs

variable {limit : Nat} {begun : Option (Kind × Bytes)} {bs : Bytes} {f : Frame} {n : Nat}
  {e : FrameError}

/-! ## Bytes -/

theorem transcript_of_error (h : Frame.parse bs limit = .error e) :
    transcript limit begun bs = ([], .broken e) := by
  rw [transcript, Frame.readAll_of_error h]
  rfl

theorem transcript_of_none (h : Frame.parse bs limit = .ok none) :
    transcript limit begun bs = ([], .left) := by
  rw [transcript, Frame.readAll_of_none h]
  rfl

/-- What is said by a frame and the bytes behind it. -/
def andThen (limit : Nat) (bs : Bytes) :
    Except Ending (Option Message × Option (Kind × Bytes)) → List Message × Ending
  | .error ending => ([], ending)
  | .ok (m?, begun) => (m?.toList ++ (transcript limit begun bs).1, (transcript limit begun bs).2)

theorem transcript_of_some (h : Frame.parse bs limit = .ok (some (f, n))) :
    transcript limit begun bs = andThen limit (bs.drop n) (heard limit begun f) := by
  rw [transcript, Frame.readAll_of_some h]
  dsimp only [transcriptOf]
  cases heard limit begun f with
  | error ending => rfl
  | ok given => rfl

/-! ## Reassembly -/

/-- The answer of a reassembler is what the transcript says. -/
def Answers (r : Reassembler) (answer : Except FrameError (Option Message) × Reassembler) :
    Except FrameError (Option Message × Option (Kind × Bytes)) → Prop
  | .error e => answer.1 = .error e
  | .ok (m?, begun) => answer = (.ok m?, { r with partialMessage := begun })

theorem answers_of_joined {kind : Kind} {data : Bytes} (r : Reassembler)
    (h : joined limit begun f = .ok (kind, data)) :
    Answers r
      (if f.fin then ((Message.ofData kind data).map some, { r with partialMessage := none })
        else (.ok none, { r with partialMessage := some (kind, data) }))
      (said limit begun f) := by
  simp only [said, h]
  cases hfin : f.fin with
  | false => rfl
  | true => cases hm : Message.ofData kind data <;> rfl

theorem said_of_joined_error (h : joined limit begun f = .error e) :
    said limit begun f = .error e := by
  simp only [said, h]

/-- **A reassembler answers each data frame with what the transcript says of it.** -/
theorem answers_push (r : Reassembler) (hf : f.opcode.isControl = false) :
    Answers r (r.push f) (said r.limit r.partialMessage f) := by
  obtain ⟨limit, begun, open?⟩ := r
  cases begun with
  | none =>
      have hbegin : ∀ kind, joined limit none f = .ok (kind, f.payload) →
          Answers ⟨limit, none, open?⟩ (Reassembler.begin ⟨limit, none, open?⟩ kind f)
            (said limit none f) := fun kind h =>
        answers_of_joined ⟨limit, none, open?⟩ h
      rw [Reassembler.push]
      cases hop : f.opcode with
      | text => exact hbegin .text (by rw [joined, hop])
      | binary => exact hbegin .binary (by rw [joined, hop])
      | continuation =>
          rw [said_of_joined_error (e := .unexpectedContinuation) (by rw [joined, hop])]
          rfl
      | close | ping | pong => simp [hop, Opcode.isControl] at hf
  | some begun =>
      obtain ⟨kind, data⟩ := begun
      rw [Reassembler.push]
      cases hop : f.opcode with
      | text | binary =>
          rw [said_of_joined_error (e := .interleavedMessage) (by rw [joined, hop]; rfl)]
          rfl
      | continuation =>
          by_cases hlong : limit < (data ++ f.payload).length
          · rw [said_of_joined_error (e := .tooLarge limit)
              (by rw [joined, hop, if_neg (by simp), if_pos hlong])]
            rw [List.length_append] at hlong
            simp [Answers, Reassembler.continueWith, hlong]
          · have hjoined : joined limit (some (kind, data)) f = .ok (kind, data ++ f.payload) := by
              rw [joined, hop, if_neg (by simp), if_neg hlong]
            have hanswers := answers_of_joined ⟨limit, some (kind, data), open?⟩ hjoined
            rw [List.length_append] at hlong
            simpa [Reassembler.continueWith, hlong] using hanswers
      | close | ping | pong => simp [hop, Opcode.isControl] at hf

end WebSocket

end WebServer
