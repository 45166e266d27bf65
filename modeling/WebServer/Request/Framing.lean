import WebServer.Chunked
import WebServer.Request.Head

/-!
# WebServer.Request.Framing

How the end of a request's body is found: by its declared length, or by the
chunks it comes in. Chunks win over a declared length.
-/

namespace WebServer

namespace Request

/-- How a body is delimited, and how far it has been read. -/
inductive Framing where
  | length (n : Nat)
  | chunked (d : Chunked.Decoder)
deriving DecidableEq

namespace Framing

/-- Whether the last transfer coding is `chunked`. -/
def isChunked (h : Headers) : Bool :=
  match ((h.getAll "Transfer-Encoding").flatMap Headers.items).getLast? with
  | some coding => foldCase coding == "chunked".toList
  | none => false

/-- The declared length of a body, 0 when there is none. Repeated declarations
must agree. -/
def declaredLength (h : Headers) : Except ParseError Nat :=
  match (h.getAll "Content-Length").map fun v => decimal? (trimText v) with
  | [] => .ok 0
  | none :: _ => .error .invalidContentLength
  | some n :: others =>
      if others.all (· == some n) then .ok n else .error .invalidContentLength

/-- The framing that the header fields ask for. -/
def ofHeaders (h : Headers) (limits : Limits) : Except ParseError Framing :=
  if h.contains "Transfer-Encoding" then
    if isChunked h then .ok (.chunked { limit := limits.maxBody })
    else .error .unsupportedTransferEncoding
  else
    match declaredLength h with
    | .error e => .error e
    | .ok n => if n > limits.maxBody then .error (.bodyTooLarge limits.maxBody) else .ok (.length n)

/-- Decodes what has arrived of a body, which may only grow from call to call.
Answers the body and the bytes it took, once it is complete. -/
def decode (f : Framing) (buf : Bytes) : Except ParseError (Option (Bytes × Nat)) × Framing :=
  match f with
  | .length n =>
      let body := buf.take n
      (.ok (if body.length < n then none else some (body, n)), f)
  | .chunked d =>
      match d.decode buf with
      | (.error e, d) => (.error e, .chunked d)
      | (.ok none, d) => (.ok none, .chunked d)
      | (.ok (some n), d) =>
          let (chunks, d) := d.takeChunks
          (.ok (some (chunks.flatten, n)), .chunked d)

end Framing

end Request

end WebServer
