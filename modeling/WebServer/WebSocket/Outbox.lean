import WebServer.Link
import WebServer.WebSocket.Frame

/-!
# WebServer.WebSocket.Outbox

The sending side of a session. Frames wait in a queue for a writer, which puts
them on the link whenever the session itself has to wait. The writer stops for
good after a Close frame, when a write fails, or when the sock is closed; frames
sent after that fail.
-/

namespace WebServer

namespace WebSocket

/-- What the writer of a session is doing. -/
inductive WriterState where
  /-- It writes what is queued as soon as the session waits. -/
  | ready
  /-- It is in a write that does not end. -/
  | stalled
  /-- It has stopped. -/
  | ended
deriving DecidableEq, Inhabited

/-- The sending side of a session, on its link. -/
structure Outbox where
  link : Link
  /-- The frames that wait for the writer, in order. -/
  queue : List Frame := []
  /-- Whether the closing handshake has begun. -/
  closing : Bool := false
  writer : WriterState := .ready
  /-- All frames that were queued, latest first. -/
  accepted : List Frame := []
deriving DecidableEq

namespace Outbox

/-- The most frames that wait for the writer. -/
def capacity : Nat := 64

/-- Stops the writer, which closes the server's side of the stream. -/
def stop (o : Outbox) : Outbox := { o with link := o.link.shutStream, writer := .ended }

/-- Writes the given frames and forgets the queue's old content; what is not
written stays queued. -/
def writeFrames (o : Outbox) : List Frame → Outbox
  | [] => { o with queue := [] }
  | f :: fs =>
      match o.link.writeAll [f.encode none] with
      | (.done, link) =>
          let link := { link with sock := link.sock.touch link.now }
          if f.opcode = .close then { o with link, queue := fs }.stop
          else writeFrames { o with link } fs
      | (.stalled, link) => { o with link, queue := fs, writer := .stalled }
      | (_, link) => { o with link, queue := fs }.stop

/-- Lets the writer write what is queued. -/
def flush (o : Outbox) : Outbox :=
  match o.writer with
  | .ready => o.writeFrames o.queue
  | _ => o

/-- The writer notices that the sock is closed, unless it is in a write. -/
def noticeClose (o : Outbox) : Outbox :=
  if o.writer = .ready && o.link.sock.isClosed then o.stop else o

/-- Closes the sock. -/
def closeSock (o : Outbox) : Outbox := { o with link := o.link.closeSock }

/-- What sending comes to. -/
inductive Sent where
  | ok
  /-- The writer has stopped. -/
  | failed
  /-- The queue is full and stays full. -/
  | stuck
deriving DecidableEq

/-- Waits for ever. -/
def waitForever (o : Outbox) : Outbox :=
  { o with link := (o.link.await (α := Unit) (fun _ => none) none).2 }

/-- Queues a frame; when the queue is full the writer goes first. -/
def post (o : Outbox) (f : Frame) : Sent × Outbox :=
  let o := if o.queue.length < capacity then o else o.flush
  if o.writer = .ended then (.failed, o)
  else if o.queue.length < capacity then
    (.ok, { o with queue := o.queue ++ [f], accepted := f :: o.accepted })
  else (.stuck, o.waitForever)

/-- Sends a frame of data; not possible once the session is closing. -/
def send (o : Outbox) (f : Frame) : Sent × Outbox :=
  if o.closing then (.failed, o) else o.post f

/-- Begins the closing handshake, unless it has begun. -/
def close (o : Outbox) (code : UInt16) (reason : String) : Sent × Outbox :=
  if o.closing then (.ok, o) else { o with closing := true }.post (.close code reason)

/-- Waits, while the writer writes. Tells whether the time came. -/
def sleep (o : Outbox) (ms : Nat) : Bool × Outbox :=
  if ms = 0 then (true, o)
  else
    let o := o.flush
    match o.link.await (α := Unit) (fun _ => none) (some (o.link.now + ms)) with
    | (.timeout, link) => (true, { o with link }.noticeClose)
    | (_, link) => (false, { o with link })

/-- Waits for bytes, while the writer writes. -/
def receive (o : Outbox) (deadline : Option Nat) : Link.Received × Outbox :=
  let interrupt (l : Link) : Bool := l.sock.isClosed
  let o := if (o.link.arrivalOr interrupt).isSome then o else o.flush
  let (r, link) := o.link.receive deadline interrupt
  (r, { o with link }.noticeClose)

end Outbox

end WebSocket

end WebServer
