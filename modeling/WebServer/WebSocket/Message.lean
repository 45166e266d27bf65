import WebServer.WebSocket.Frame

/-!
# WebServer.WebSocket.Message

Messages and their fragments. `Reassembler` follows a connection's data frames:
`push` collects them into whole messages, `fragment` hands each one on and only
keeps track of where messages begin and end.
-/

namespace WebServer

namespace WebSocket

/-- What a message holds. -/
inductive Kind where
  | text | binary
deriving DecidableEq, Inhabited, Repr

/-- A whole message. -/
inductive Message where
  | text (s : String)
  | binary (data : Bytes)
deriving DecidableEq

namespace Message

/-- What the message holds. -/
def kind : Message → Kind
  | .text _ => .text
  | .binary _ => .binary

/-- The bytes of the message. -/
def data : Message → Bytes
  | .text s => utf8 s
  | .binary d => d

/-- The message of a kind with the given bytes; text must be UTF-8. -/
def ofData (k : Kind) (data : Bytes) : Except FrameError Message :=
  match k with
  | .binary => .ok (.binary data)
  | .text =>
      match text? data with
      | some s => .ok (.text s)
      | none => .error .invalidUtf8

end Message

/-- The payload of one data frame. -/
structure Fragment where
  kind : Kind
  data : Bytes
  /-- Whether it completes its message. -/
  last : Bool
deriving DecidableEq

/-! ## What a handler takes -/

/-- The kinds of message a handler takes. -/
inductive Accepts where
  | text | binary | both
deriving DecidableEq, Inhabited

/-- The kinds of message a handler takes, and whether it takes them whole. -/
structure Capability where
  accepts : Accepts := .both
  /-- Whether each frame is handed over as it arrives. -/
  streaming : Bool := false
deriving DecidableEq, Inhabited

/-- Whether a kind of message is taken. -/
def Capability.takes (c : Capability) (k : Kind) : Bool :=
  match c.accepts, k with
  | .both, _ | .text, .text | .binary, .binary => true
  | _, _ => false

/-! ## Reassembly -/

/-- The message that a connection's data frames are in the middle of. -/
structure Reassembler where
  /-- The most bytes a message may have. -/
  limit : Nat
  /-- The kind and the bytes so far, when messages are collected. -/
  partialMessage : Option (Kind × Bytes) := none
  /-- The kind, when fragments are handed on. -/
  open? : Option Kind := none
deriving DecidableEq

namespace Reassembler

/-- Whether a message has begun and not ended. -/
def inProgress (r : Reassembler) : Bool := r.partialMessage.isSome || r.open?.isSome

/-- Takes a frame that begins a message. -/
def begin (r : Reassembler) (kind : Kind) (f : Frame) :
    Except FrameError (Option Message) × Reassembler :=
  if r.partialMessage.isSome then (.error .interleavedMessage, r)
  else if f.fin then ((Message.ofData kind f.payload).map some, r)
  else (.ok none, { r with partialMessage := some (kind, f.payload) })

/-- Takes a frame that goes on with a message. -/
def continueWith (r : Reassembler) (f : Frame) :
    Except FrameError (Option Message) × Reassembler :=
  match r.partialMessage with
  | none => (.error .unexpectedContinuation, r)
  | some (kind, data) =>
      let idle := { r with partialMessage := none }
      if data.length + f.payload.length > r.limit then (.error (.tooLarge r.limit), idle)
      else
        let data := data ++ f.payload
        if f.fin then ((Message.ofData kind data).map some, idle)
        else (.ok none, { r with partialMessage := some (kind, data) })

/-- Takes a frame and gives the message that it completes. Control frames may
come between fragments and are ignored. -/
def push (r : Reassembler) (f : Frame) : Except FrameError (Option Message) × Reassembler :=
  match f.opcode with
  | .text => r.begin .text f
  | .binary => r.begin .binary f
  | .continuation => r.continueWith f
  | .close | .ping | .pong => (.ok none, r)

/-- Takes a frame and gives the fragment that it carries. -/
def fragment (r : Reassembler) (f : Frame) :
    Except FrameError (Option Fragment) × Reassembler :=
  let hand (kind : Kind) : Except FrameError (Option Fragment) × Reassembler :=
    (.ok (some { kind, data := f.payload, last := f.fin }),
      { r with open? := if f.fin then none else some kind })
  match f.opcode, r.open? with
  | .text, none => hand .text
  | .binary, none => hand .binary
  | .text, some _ | .binary, some _ => (.error .interleavedMessage, r)
  | .continuation, some kind => hand kind
  | .continuation, none => (.error .unexpectedContinuation, r)
  | .close, _ | .ping, _ | .pong, _ => (.ok none, r)

end Reassembler

end WebSocket

end WebServer
