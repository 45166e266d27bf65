import WebServer.WebSocket.Handler
import WebServer.WebSocket.Outbox

/-!
# WebServer.WebSocket.Session

A session on an upgraded connection: frames are read and handed to the handler
in the order in which they arrive, and what the handler sends goes out through
the outbox. The session ends with a code, which the handler is told last.

| why it ends                          | code                                |
|--------------------------------------|-------------------------------------|
| the peer closes                      | the peer's, or 1005 without one     |
| the stream ends, or the sock closes  | 1001                                |
| the framing is broken                | the error's                         |
| data of a kind the handler refuses   | 1003                                |
| a hook fails or panics               | 1011                                |
-/

namespace WebServer

namespace WebSocket

/-- What a session is given. -/
structure SessionConfig where
  handler : Handler
  /-- The most bytes a message may have. -/
  limit : Nat
  /-- How long the peer may take to finish the closing handshake, in
  milliseconds. -/
  patience : Nat

/-- A session between two frames. -/
structure Session where
  outbox : Outbox
  reassembler : Reassembler
  /-- The bytes read and not parsed. -/
  buffer : Bytes
  /-- What was handed over, latest first. -/
  earlier : List Delivery := []

/-- How reading ends. -/
inductive ReadStop where
  /-- The code, and whether a Close frame still has to reach the peer. -/
  | ended (code : UInt16) (flush : Bool)
  /-- The session waits for ever. -/
  | stuck
deriving DecidableEq

namespace Session

/-- Records an event of a handler. -/
def log (cfg : SessionConfig) (o : Outbox) (e : Event) : Outbox :=
  if cfg.handler.quiet then o else { o with link := o.link.log e }

/-! ## Hooks -/

/-- The answer to an action that sends; a failure is recorded. -/
def ofSent : Outbox.Sent × Outbox → Option Bool × Outbox
  | (.ok, o) => (some true, o)
  | (.failed, o) => (some false, { o with link := o.link.log .sendFailed })
  | (.stuck, o) => (none, o)

/-- Performs an action; the answer is `none` when it never ends. -/
def perform (o : Outbox) : Action → Option Bool × Outbox
  | .text s => ofSent (o.send (.text s))
  | .binary d => ofSent (o.send (.binary d))
  | .ping d => ofSent (o.send (.ping d))
  | .close code reason => ofSent (o.close code reason)
  | .delay ms =>
      match o.sleep ms with
      | (true, o) => (some true, o)
      | (false, o) => (none, o)
  | .isClosing => (some o.closing, { o with link := o.link.log (.askedClosing o.closing) })

/-- Runs a hook; the result is `none` when it never ends. -/
def runHook : Program → Outbox → Option HookEnd × Outbox
  | .finish how, o => (some how, o)
  | .perform a next, o =>
      match perform o a with
      | (some answer, o) => runHook (next answer) o
      | (none, o) => (none, o)

/-! ## Frames -/

/-- Closes the session for a failure. -/
def fail (s : Session) (code : UInt16) : ReadStop × Session :=
  match s.outbox.close code "" with
  | (.ok, outbox) => (.ended code true, { s with outbox })
  | (.failed, outbox) => (.ended code false, { s with outbox })
  | (.stuck, outbox) => (.stuck, { s with outbox })

/-- Sends a control frame whatever the session is doing; failing is of no
consequence. -/
def sendControl (s : Session) (f : Frame) : Option ReadStop × Session :=
  match s.outbox.post f with
  | (.stuck, outbox) => (some .stuck, { s with outbox })
  | (_, outbox) => (none, { s with outbox })

/-- The frame that answers a Close frame: the peer's code comes back if it may
be sent. -/
def closeReply (f : Frame) : Frame :=
  match f.closeCode? with
  | some code =>
      if CloseCode.isSendable code then .close code "" else .close CloseCode.normal ""
  | none =>
      if f.payload.isEmpty then { opcode := .close, payload := [] } else .close CloseCode.normal ""

/-- The peer closes. -/
def onClose (s : Session) (f : Frame) : ReadStop × Session :=
  let code := f.closeCode?.getD CloseCode.noStatus
  if s.outbox.closing then (.ended code true, s)
  else
    let s := { s with outbox := { s.outbox with closing := true } }
    match s.sendControl (closeReply f) with
    | (some stop, s) => (stop, s)
    | (none, s) => (.ended code true, s)

/-- What a data frame gives the handler, or the code with which it ends the
session. -/
def delivery (cfg : SessionConfig) (r : Reassembler) (f : Frame) :
    Except UInt16 (Option Delivery) × Reassembler :=
  let check (d : Delivery) : Except UInt16 (Option Delivery) :=
    if cfg.handler.capability.takes d.kind then .ok (some d)
    else .error CloseCode.unsupportedData
  if cfg.handler.capability.streaming then
    match r.fragment f with
    | (.error e, r) => (.error e.closeCode, r)
    | (.ok none, r) => (.ok none, r)
    | (.ok (some x), r) => (check (.fragment x), r)
  else
    match r.push f with
    | (.error e, r) => (.error e.closeCode, r)
    | (.ok none, r) => (.ok none, r)
    | (.ok (some m), r) => (check (.message m), r)

/-- Hands a delivery to the handler; `none` for a result when that never ends. -/
def handOver (cfg : SessionConfig) (s : Session) (d : Delivery) : Option HookEnd × Session :=
  let outbox := log cfg s.outbox (.delivered d)
  let (how, outbox) := runHook (cfg.handler.onDelivery s.earlier d) outbox
  (how, { s with outbox, earlier := d :: s.earlier })

/-- Releases the sock after a delivery. -/
def endCycle (s : Session) : Session :=
  let l := s.outbox.link
  { s with outbox := { s.outbox with link := (l.onSock (Sock.endCycle · l.now)).2 } }

/-- Ends a delivery, and the session with it, for a failure. -/
def failDelivery (s : Session) (code : UInt16) : Option ReadStop × Session :=
  let (stop, s) := s.endCycle.fail code
  (some stop, s)

/-- What follows when the handler is done with a delivery. -/
def afterDelivery : Option HookEnd × Session → Option ReadStop × Session
  | (none, s) => (some .stuck, s)
  | (some .returned, s) => (none, s.endCycle)
  | (some _, s) => s.failDelivery CloseCode.internalError

/-- Claims the sock for a data frame, and finds out what the frame gives the handler;
`none` when the sock is not to be had. -/
def claim (cfg : SessionConfig) (s : Session) (f : Frame) :
    Option (Except UInt16 (Option Delivery) × Session) :=
  match s.outbox.link.onSock Sock.beginCycle with
  | (false, _) => none
  | (true, link) =>
      let (given, reassembler) := delivery cfg s.reassembler f
      some (given, { s with outbox := { s.outbox with link }, reassembler })

/-- A data frame arrives: the sock is claimed while the handler has it. -/
def onData (cfg : SessionConfig) (s : Session) (f : Frame) : Option ReadStop × Session :=
  match s.claim cfg f with
  | none => (some (.ended CloseCode.goingAway false), s)
  | some (.error code, s) => s.failDelivery code
  | some (.ok none, s) => (none, s.endCycle)
  | some (.ok (some d), s) => afterDelivery (handOver cfg s d)

/-- A frame arrives. Frames of a client are masked. -/
def onFrame (cfg : SessionConfig) (s : Session) (f : Frame) : Option ReadStop × Session :=
  if !f.masked then
    let (stop, s) := s.fail FrameError.unmasked.closeCode
    (some stop, s)
  else
    match f.opcode with
    | .ping => s.sendControl (.pong f.payload)
    | .pong => (none, s)
    | .close =>
        let (stop, s) := s.onClose f
        (some stop, s)
    | .text | .binary | .continuation => onData cfg s f

/-! ## Reading -/

/-- Waits for bytes; once the session is closing, the peer's answer must come in
time. -/
def readMore (cfg : SessionConfig) (s : Session) : Option ReadStop × Session :=
  let deadline := if s.outbox.closing then some (s.outbox.link.now + cfg.patience) else none
  match s.outbox.receive deadline with
  | (.arrived (.bytes bs), outbox) => (none, { s with outbox, buffer := s.buffer ++ bs })
  | (.stuck, outbox) => (some .stuck, { s with outbox })
  | (_, outbox) => (some (.ended CloseCode.goingAway false), { s with outbox })

/-- Takes a frame of `n` bytes from the buffer, which counts as activity. -/
def consume (s : Session) (n : Nat) : Session :=
  let l := s.outbox.link
  let link := { l with sock := l.sock.touch l.now }
  { s with buffer := s.buffer.drop n, outbox := { s.outbox with link } }

/-- Reads the next frame, or more bytes of it. -/
def step (cfg : SessionConfig) (s : Session) : Option ReadStop × Session :=
  match Frame.parse s.buffer cfg.limit with
  | .ok (some (f, n)) => onFrame cfg (s.consume n) f
  | .ok none => readMore cfg s
  | .error e =>
      let (stop, s) := s.fail e.closeCode
      (some stop, s)

/-- Reads frames until something ends the session, `fuel` steps at most. -/
def readLoop (cfg : SessionConfig) : Nat → Session → ReadStop × Session
  | 0, s => (.stuck, s)
  | fuel + 1, s =>
      match step cfg s with
      | (none, s) => readLoop cfg fuel s
      | (some stop, s) => (stop, s)

/-- Reads frames until something ends the session. A frame takes two bytes at
least from the buffer, and a read brings at least one. -/
def readAll (cfg : SessionConfig) (s : Session) : ReadStop × Session :=
  readLoop cfg (2 * s.outbox.link.supply + s.buffer.length + 1) s

/-! ## Whole sessions -/

/-- Opens the session and reads. -/
def openAndRead (cfg : SessionConfig) (s : Session) : ReadStop × Session :=
  let outbox := log cfg s.outbox .opened
  match runHook cfg.handler.onOpen outbox with
  | (none, outbox) => (.stuck, { s with outbox })
  | (some .returned, outbox) => readAll cfg { s with outbox }
  | (some _, outbox) => { s with outbox }.fail CloseCode.internalError

/-- Lets the writer finish: nothing more will be sent. Tells whether it came to
its end. -/
def finishWriter (o : Outbox) : Bool × Outbox :=
  let o := o.flush
  match o.writer with
  | .ready => (true, o.stop)
  | .ended => (true, o)
  | .stalled => (false, o)

/-- Ends the sending side: a Close frame gets its time to go out, and the sock is closed.
Without any patience the writer is given up before its next turn. Tells whether that came
to an end. -/
def release (cfg : SessionConfig) (o : Outbox) (flush : Bool) : Bool × Outbox :=
  if flush then
    if cfg.patience = 0 then (true, o.closeSock)
    else
      match finishWriter o with
      | (true, o) => (true, o.closeSock)
      | (false, o) =>
          match o.sleep cfg.patience with
          | (true, o) => (true, o.closeSock)
          | (false, o) => (false, o)
  else
    match finishWriter o.closeSock with
    | (true, o) => (true, o)
    | (false, o) => (false, o.waitForever)

/-- Ends the session: the handler is told the code and has the last word. If that never
ends, or panics, the sock stays as it is. Tells whether the session came to an end. -/
def finish (cfg : SessionConfig) (s : Session) (code : UInt16) (flush : Bool) : Bool × Outbox :=
  let outbox := log cfg s.outbox (.ended code s.outbox.closing)
  match runHook (cfg.handler.onClose code) outbox with
  | (some .returned, outbox) | (some .failed, outbox) => release cfg outbox flush
  | (some .panicked, outbox) | (none, outbox) => (false, (finishWriter outbox).2)

/-- A session that begins with some bytes. -/
def start (cfg : SessionConfig) (buffered : Bytes) (l : Link) : Session where
  outbox := { link := l }
  reassembler := { limit := cfg.limit }
  buffer := buffered

/-- Runs a session on an open connection, and gives its sending side in the end. -/
def runOpen (cfg : SessionConfig) (buffered : Bytes) (l : Link) : Bool × Outbox :=
  match openAndRead cfg (start cfg buffered l) with
  | (.ended code flush, s) => finish cfg s code flush
  | (.stuck, s) => (false, (finishWriter s.outbox).2)

/-- Runs a session; `buffered` was read behind the handshake, and `gone` tells
that the connection has been given up. A session on a closed connection does not
begin. Tells whether the session came to an end. -/
def run (cfg : SessionConfig) (buffered : Bytes) (gone : Bool) (l : Link) : Bool × Link :=
  if gone || l.sock.isClosed then (true, l)
  else
    let (done, o) := runOpen cfg buffered l
    (done, o.link)

end Session

end WebSocket

end WebServer
