import WebServer.Multipart

/-!
# WebServer.ParseError

Why bytes are not a request, and what a client may send at most.
-/

namespace WebServer

/-- The size limits that a request must keep. -/
structure Limits where
  maxHeader : Nat := 64 * 1024
  maxBody : Nat := 10 * 1024 * 1024
deriving DecidableEq, Inhabited

/-- Why bytes are not a request. -/
inductive ParseError where
  /-- The request line, or the encoding of the head. -/
  | invalidRequest
  | invalidMethod
  | invalidVersion
  | invalidHeader
  | invalidContentLength
  | invalidChunk
  | unsupportedTransferEncoding
  | headersTooLarge (limit : Nat)
  | bodyTooLarge (limit : Nat)
  | multipart (cause : Multipart.Error)
  /-- More bytes may complete the request. -/
  | incomplete
  /-- An offset leaves the buffer or the machine word. -/
  | outOfRange
deriving DecidableEq, Repr

/-- The wording of an error. -/
def ParseError.message : ParseError → String
  | .invalidRequest => "malformed request line"
  | .invalidMethod => "unknown request method"
  | .invalidVersion => "unsupported HTTP version"
  | .invalidHeader => "malformed header line"
  | .invalidContentLength => "invalid Content-Length"
  | .invalidChunk => "malformed chunked body"
  | .unsupportedTransferEncoding => "unsupported transfer encoding"
  | .headersTooLarge n => s!"request head exceeds {n} bytes"
  | .bodyTooLarge n => s!"request body exceeds {n} bytes"
  | .multipart e => "invalid multipart body: " ++ e.message
  | .incomplete => "incomplete request"
  | .outOfRange => "offset out of range"

end WebServer
