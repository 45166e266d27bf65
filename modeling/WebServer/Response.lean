import WebServer.Bytes
import WebServer.Headers
import WebServer.Status

/-!
# WebServer.Response

Responses: a status, header fields, and a body that is either there as a whole
or comes in pieces.
-/

namespace WebServer

/-- The body of a response. -/
inductive Body where
  /-- All of it. -/
  | full (bytes : Bytes)
  /-- The pieces sent so far, none of them empty; while `held`, more may come. -/
  | stream (pieces : List Bytes) (held : Bool)
deriving DecidableEq, Inhabited

/-- A response to be sent. -/
structure Response where
  status : Status
  headers : Headers
  body : Body
deriving DecidableEq, Inhabited

namespace Response

/-- A response with its whole body. A status that allows a body gets a
`Content-Length` field, unless there is one. -/
def withBody (status : Status) (headers : Headers) (bytes : Bytes) : Response :=
  let headers :=
    if status.allowsBody && !headers.contains "Content-Length" then
      headers.insert "Content-Length" (toString bytes.length)
    else headers
  { status, headers, body := .full bytes }

/-- A response whose body is sent piece by piece. Empty pieces are not sent. -/
def streamed (status : Status) (headers : Headers) (pieces : List Bytes) (held : Bool) :
    Response :=
  { status, headers, body := .stream (pieces.filter fun p => !p.isEmpty) held }

/-- A 200 response with a body. -/
def ok (bytes : Bytes) : Response := withBody .ok .empty bytes

/-- The status line as a page of plain text. -/
def statusPage (status : Status) : Response :=
  withBody status (Headers.empty.insert "Content-Type" "text/plain")
    (utf8 (toString status.code ++ " " ++ status.reason))

/-- The page for a request that cannot be read. -/
def badRequest : Response := statusPage .badRequest

/-- The page for a path without a handler. -/
def notFound : Response := statusPage .notFound

/-- The page for a handler that failed. -/
def internalError : Response := statusPage .internalServerError

/-- The page for a server without a free worker. -/
def serviceUnavailable : Response := statusPage .serviceUnavailable

/-- A 200 response of a content type, sent piece by piece. -/
def streaming (contentType : String) (pieces : List Bytes) (held : Bool) : Response :=
  streamed .ok (Headers.empty.insert "Content-Type" contentType) pieces held

/-- The whole body, if it is there. -/
def bytes? (r : Response) : Option Bytes :=
  match r.body with
  | .full bs => some bs
  | .stream _ _ => none

/-- Whether the body comes in pieces. -/
def isStreaming (r : Response) : Bool := r.bytes?.isNone

end Response

/-! ## Sending a body piece by piece -/

/-- The pieces of a streamed body on their way to the client. -/
structure BodyQueue where
  pieces : List Bytes := []
  /-- Whether the response is gone. -/
  closed : Bool := false
deriving DecidableEq, Inhabited

namespace BodyQueue

/-- The most pieces that wait for the client. -/
def capacity : Nat := 16

/-- What sending a piece leads to. -/
inductive Sent where
  | ok
  /-- There is no room until the client has read. -/
  | blocked
  /-- Nobody reads the body. -/
  | closed
deriving DecidableEq

/-- The wording of a failed send. -/
def closedMessage : String := "response body receiver dropped"

/-- Sends a piece. An empty one would read as the end and is left out. -/
def send (q : BodyQueue) (piece : Bytes) : Sent × BodyQueue :=
  if piece.isEmpty then (.ok, q)
  else if q.closed then (.closed, q)
  else if q.pieces.length < capacity then (.ok, { q with pieces := q.pieces ++ [piece] })
  else (.blocked, q)

/-- Takes the piece that was sent first, if there is one. -/
def receive (q : BodyQueue) : Option (Bytes × BodyQueue) :=
  match q.pieces with
  | [] => none
  | p :: pieces => some (p, { q with pieces })

/-- Drops the response, and with it what waits for the client. -/
def close (_ : BodyQueue) : BodyQueue := { pieces := [], closed := true }

end BodyQueue

end WebServer
