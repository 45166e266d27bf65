import WebServer.Chunked
import WebServer.Request
import WebServer.Response

/-!
# WebServer.Response.Writer

How a response goes out: the framing of its body, the head that declares the
framing, and the writes that follow.

| body     | client           | framing                                   |
|----------|------------------|-------------------------------------------|
| none     | any              | `empty`: HEAD, or a status without a body |
| whole    | any              | `full`: `Content-Length`                  |
| streamed | any              | `length n`: the handler declared it       |
| streamed | HTTP/1.0         | `untilClose`: the connection ends it      |
| streamed | HTTP/1.1         | `chunked`                                 |
-/

namespace WebServer

/-- What a request allows its response to look like. -/
structure Exchange where
  /-- Only the head is wanted. -/
  headOnly : Bool := false
  /-- The connection outlives the response. -/
  keepAlive : Bool := true
  /-- The client cannot read chunks. -/
  http10 : Bool := false
deriving DecidableEq, Inhabited

namespace Exchange

/-- A whole response on a connection that stays open. -/
def stay : Exchange := {}

/-- A whole response on a connection that closes after it. -/
def closing : Exchange := { keepAlive := false }

/-- What a request allows. -/
def ofRequest (r : Request) : Exchange :=
  { headOnly := r.method = .head, keepAlive := r.keepAlive, http10 := r.isHttp10 }

end Exchange

namespace Response

/-- How the end of a response's body is found. -/
inductive Framing where
  | empty
  | full
  | length (n : Nat)
  | chunked
  | untilClose
deriving DecidableEq

/-- A header field on the wire. -/
def fieldBytes (e : String × String) : Bytes := utf8 e.1 ++ [58, 32] ++ utf8 e.2 ++ crlf

/-- The status line on the wire. -/
def statusLine (s : Status) : Bytes :=
  utf8 ("HTTP/1.1 " ++ toString s.code ++ " " ++ s.reason) ++ crlf

/-- A head on the wire: status line, fields and blank line. -/
def headBytes (s : Status) (h : Headers) : Bytes :=
  statusLine s ++ h.entries.flatMap fieldBytes ++ crlf

/-- A response made ready for the wire. -/
structure Writer where
  head : Bytes
  body : Body
  framing : Framing
  /-- Whether another request may follow. -/
  keepAlive : Bool
deriving DecidableEq

namespace Writer

/-- The framing of a body, and the header fields that declare it. -/
def frame (r : Response) (ex : Exchange) : Framing × Headers :=
  if !r.status.allowsBody then
    let h := if r.status = .switchingProtocols then r.headers else r.headers.erase "Content-Length"
    (.empty, h.erase "Transfer-Encoding")
  else
    match r.body with
    | .full bs =>
        let n := toString bs.length
        let h := if r.headers.get? "Content-Length" = some n then r.headers
          else r.headers.insert "Content-Length" n
        (.full, h.erase "Transfer-Encoding")
    | .stream _ _ =>
        match (r.headers.get? "Content-Length").bind fun v => decimal? (trimText v) with
        | some n => (.length n, r.headers.erase "Transfer-Encoding")
        | none =>
            let h := r.headers.erase "Content-Length"
            if ex.http10 then (.untilClose, h.erase "Transfer-Encoding")
            else (.chunked, h.insert "Transfer-Encoding" "chunked")

/-- The writer of a response to a request. A body that only the end of the
connection delimits closes it, and closing is announced. -/
def ofResponse (r : Response) (ex : Exchange) : Writer :=
  let (framing, h) := frame r ex
  let keepAlive := ex.keepAlive && framing != .untilClose
  let h := if keepAlive then h else h.insert "Connection" "close"
  { head := headBytes r.status h
    body := r.body
    framing := if ex.headOnly then .empty else framing
    keepAlive }

/-- Whether the body is sent in chunks. -/
def isChunked (w : Writer) : Bool := w.framing = .chunked

/-! ## The writes -/

/-- How the body of a response ends. -/
inductive End where
  /-- Everything is sent: that many bytes of the body. -/
  | sent (n : Nat)
  /-- The stream ended before the declared length. -/
  | short (sent declared : Nat)
deriving DecidableEq

/-- What a response writes: `writes` at once, and `tail` when the stream has
ended. -/
structure Plan where
  writes : List Bytes
  /-- Whether the end of the stream has to come before `tail`. -/
  waits : Bool := false
  tail : List Bytes := []
  ending : End
deriving DecidableEq

/-- Cuts pieces so that together they have at most `n` bytes; pieces behind the
`n`-th byte are left out. -/
def cutPieces : Nat → List Bytes → List Bytes
  | 0, _ => []
  | _, [] => []
  | n + 1, p :: ps => p.take (n + 1) :: cutPieces (n + 1 - p.length) ps

/-- The writes of the body, piece by piece. -/
def plan (w : Writer) : Plan :=
  match w.framing, w.body with
  | .empty, _ => { writes := [w.head], ending := .sent 0 }
  | _, .full bs => { writes := [w.head, bs], ending := .sent bs.length }
  | .chunked, .stream ps held =>
      { writes := w.head :: ps.map Chunked.encode
        waits := held
        tail := [Chunked.lastChunk]
        ending := .sent ps.flatten.length }
  | .untilClose, .stream ps held =>
      { writes := w.head :: ps, waits := held, ending := .sent ps.flatten.length }
  | .length n, .stream ps held =>
      let cut := cutPieces n ps
      let sent := cut.flatten.length
      { writes := w.head :: cut
        waits := held && sent < n
        ending := if sent < n then .short sent n else .sent n }
  | .full, .stream _ _ => { writes := [w.head], ending := .sent 0 }

end Writer

end Response

end WebServer
