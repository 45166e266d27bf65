import WebServer.Request.Framing

/-!
# WebServer.Request.Reader

Reading requests from bytes that arrive piece by piece. The head is searched for
only in what is new, parsed once, and the body is taken up where the bytes ran
out. Bytes behind a request stay for the next one.
-/

namespace WebServer

namespace Request

/-- A head whose body is being read. -/
structure Pending where
  head : Head
  /-- Where the body starts in the buffer. -/
  start : Nat
  framing : Framing
deriving DecidableEq

/-- The bytes of a connection that no request has taken yet. -/
structure Reader where
  limits : Limits
  buffer : Bytes := []
  /-- Bytes already searched for the end of the head. -/
  scanned : Nat := 0
  pending : Option Pending := none
deriving DecidableEq

namespace Reader

/-- Takes in bytes that have arrived. -/
def feed (r : Reader) (bs : Bytes) : Reader := { r with buffer := r.buffer ++ bs }

/-- Whether bytes wait to be parsed. -/
def hasBuffered (r : Reader) : Bool := !r.buffer.isEmpty

/-- Takes up the body of a pending head. -/
def resume (r : Reader) (p : Pending) : Except ParseError (Option Request) × Reader :=
  match p.framing.decode (r.buffer.drop p.start) with
  | (.error e, framing) => (.error e, { r with pending := some { p with framing } })
  | (.ok none, framing) => (.ok none, { r with pending := some { p with framing } })
  | (.ok (some (body, n)), _) =>
      ((p.head.withBody body).map some,
        { r with buffer := r.buffer.drop (p.start + n), scanned := 0, pending := none })

/-- Takes the next request from the buffered bytes, if all of it is there. -/
def next (r : Reader) : Except ParseError (Option Request) × Reader :=
  match r.pending with
  | some p => r.resume p
  | none =>
      if r.buffer.isEmpty then (.ok none, r)
      else if (Head.findEnd r.buffer r.scanned).isNone && r.buffer.length ≤ r.limits.maxHeader then
        (.ok none, { r with scanned := r.buffer.length })
      else
        match Head.parse r.buffer r.limits with
        | .error e => (.error e, r)
        | .ok (head, start) =>
            match Framing.ofHeaders head.headers r.limits with
            | .error e => (.error e, r)
            | .ok framing => r.resume { head, start, framing }

end Reader

end Request

end WebServer
