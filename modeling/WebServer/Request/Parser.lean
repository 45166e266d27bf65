import WebServer.Request.Framing

/-!
# WebServer.Request.Parser

Reading one request from the front of a buffer in one go, and reading a buffer
that holds several.
-/

namespace WebServer

namespace Request

/-- Reads the request in front of a buffer, and the bytes it took. -/
def parse (buf : Bytes) (limits : Limits) : Except ParseError (Request × Nat) :=
  match Head.parse buf limits with
  | .error e => .error e
  | .ok (head, start) =>
      match Framing.ofHeaders head.headers limits with
      | .error e => .error e
      | .ok framing =>
          match (framing.decode (buf.drop start)).1 with
          | .error e => .error e
          | .ok none => .error .incomplete
          | .ok (some (body, n)) => (head.withBody body).map fun r => (r, start + n)

/-- Reads the requests of a buffer one after the other, at most `fuel` of them.
The error that stops it, if one does, comes last. -/
def parseManyWithin : Nat → Bytes → Limits → List (Except ParseError (Request × Nat))
  | 0, _, _ => []
  | fuel + 1, buf, limits =>
      if buf.isEmpty then []
      else
        match parse buf limits with
        | .error e => [.error e]
        | .ok (r, n) => .ok (r, n) :: parseManyWithin fuel (buf.drop n) limits

/-- Reads the requests of a buffer one after the other. Each takes at least one
byte, so the length of the buffer is a bound on their number. -/
def parseMany (buf : Bytes) (limits : Limits) : List (Except ParseError (Request × Nat)) :=
  parseManyWithin buf.length buf limits

end Request

end WebServer
