import WebServer.Link
import WebServer.Request.Reader
import WebServer.Response.Writer

/-!
# WebServer.Conn

A connection that requests are read from: the link, the bytes read and not yet
parsed, and the patience with a client that stops in the middle of a request.
-/

namespace WebServer

/-- Why a request could not be read. -/
inductive ReadError where
  | parse (cause : ParseError)
  /-- The stream failed. -/
  | io
  /-- The client stopped in the middle of a request. -/
  | timeout
  /-- The client left in the middle of a request. -/
  | unexpectedEof
deriving DecidableEq, Repr

namespace ReadError

/-- The wording of an error. -/
def message : ReadError → String
  | .parse e => "HTTP parse error: " ++ e.message
  | .io => "read failed: " ++ Link.resetMessage
  | .timeout => "timed out waiting for the rest of the request"
  | .unexpectedEof => "connection closed mid-request"

/-- The response owed to the client, if the connection can still carry one. -/
def response? : ReadError → Option Response
  | .parse (.bodyTooLarge _) => some (.statusPage .payloadTooLarge)
  | .parse (.headersTooLarge _) => some (.statusPage .requestHeaderFieldsTooLarge)
  | .parse _ => some .badRequest
  | .timeout => some (.statusPage .requestTimeout)
  | .io | .unexpectedEof => none

end ReadError

/-- A connection that requests are read from. -/
structure Conn where
  reader : Request.Reader
  link : Link
  /-- How long a read waits, in milliseconds. -/
  patience : Nat

namespace Conn

/-- What reading a request comes to. -/
inductive ReadEnd where
  | request (r : Request)
  /-- The client left between requests. -/
  | clean
  | failed (e : ReadError)
  /-- Something else ended the waiting. -/
  | interrupted
  | stuck
deriving DecidableEq

/-- Reads one request, until `interrupt` holds. -/
def readRequest (c : Conn) (interrupt : Link → Bool) : ReadEnd × Conn :=
  match c.reader.next with
  | (.error e, reader) => (.failed (.parse e), { c with reader })
  | (.ok (some r), reader) => (.request r, { c with reader })
  | (.ok none, reader) =>
      match _h : c.link.receive (some (c.link.now + c.patience)) interrupt with
      | (.arrived (.bytes bs), link) =>
          readRequest { c with reader := reader.feed bs, link } interrupt
      | (.arrived .eof, link) =>
          let c := { c with reader, link }
          if reader.hasBuffered || reader.pending.isSome then (.failed .unexpectedEof, c)
          else (.clean, c)
      | (.arrived .reset, link) => (.failed .io, { c with reader, link })
      | (.interrupted, link) => (.interrupted, { c with reader, link })
      | (.timeout, link) => (.failed .timeout, { c with reader, link })
      | (.stuck, link) => (.stuck, { c with reader, link })
termination_by c.link.supply
decreasing_by
  obtain ⟨hne, hs⟩ := Link.supply_receive _h
  have := List.length_pos_iff.2 hne
  omega

/-- What waiting for the first bytes of a request comes to. -/
inductive Fill where
  /-- Bytes came; none if the client left. -/
  | filled (n : Nat)
  | failed
  | interrupted
  | stuck
deriving DecidableEq

/-- Waits for bytes without a deadline, until `interrupt` holds. -/
def fill (c : Conn) (interrupt : Link → Bool) : Fill × Conn :=
  match c.link.receive none interrupt with
  | (.arrived (.bytes bs), link) =>
      (.filled bs.length, { c with reader := c.reader.feed bs, link })
  | (.arrived .eof, link) => (.filled 0, { c with link })
  | (.arrived .reset, link) => (.failed, { c with link })
  | (.interrupted, link) => (.interrupted, { c with link })
  | (.timeout, link) | (.stuck, link) => (.stuck, { c with link })

/-- Gives the next operation the whole time up to the horizon. -/
def renew (c : Conn) : Conn := { c with link := c.link.renew }

/-! ## Writing a response -/

/-- What writing a response comes to. -/
inductive WriteEnd where
  /-- Everything is written: that many bytes of the body. -/
  | sent (n : Nat)
  | failed (message : String)
  | interrupted
  | stuck
deriving DecidableEq

/-- The wording of a write that the client refused. -/
def refusedMessage : String := "connection closed while writing"

/-- The wording of a stream that ended too early. -/
def shortMessage (sent declared : Nat) : String :=
  "body stream ended after " ++ toString sent ++ " of " ++ toString declared ++ " bytes"

/-- What a write that did not succeed comes to; a stalled one waits until
`interrupt` holds. -/
def afterWrite (l : Link) (interrupt : Link → Bool) : Sink.Result → WriteEnd × Link
  | .broken => (.failed Link.brokenMessage, l)
  | .refused => (.failed refusedMessage, l)
  | .stalled | .done =>
      match l.await (fun l => if interrupt l then some () else none) none with
      | (.ready (), l) => (.interrupted, l)
      | (_, l) => (.stuck, l)

/-- Waits until the producers of a stream are done, or `interrupt` holds. The
flag tells that they are done. -/
def awaitProducers (l : Link) (interrupt : Link → Bool) : Link.Wait Bool × Link :=
  let drops := l.drops
  l.await (fun l =>
    if interrupt l then some false else if drops < l.drops then some true else none) none

/-- Writes what follows the pieces of a body. -/
def finishResponse (l : Link) (w : Response.Writer) (interrupt : Link → Bool) : WriteEnd × Link :=
  match l.writeAll w.plan.tail with
  | (.done, l) =>
      match w.plan.ending with
      | .sent n => (.sent n, l)
      | .short n m => (.failed (shortMessage n m), l)
  | (r, l) => afterWrite l interrupt r

/-- Writes a response, until `interrupt` holds. -/
def writeResponse (l : Link) (w : Response.Writer) (interrupt : Link → Bool) : WriteEnd × Link :=
  match l.writeAll w.plan.writes with
  | (.done, l) =>
      if w.plan.waits then
        match awaitProducers l interrupt with
        | (.ready true, l) => finishResponse l w interrupt
        | (.ready false, l) => (.interrupted, l)
        | (_, l) => (.stuck, l)
      else finishResponse l w interrupt
  | (r, l) => afterWrite l interrupt r

end Conn

end WebServer
