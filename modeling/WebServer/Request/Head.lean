import WebServer.ParseError
import WebServer.Request

/-!
# WebServer.Request.Head

The request line and the header fields: everything up to the blank line.

```
METHOD target version CRLF
name: value CRLF  …
CRLF
```
-/

namespace WebServer

namespace Request

/-- A request whose body has not been read. -/
structure Head where
  method : Method
  path : String
  query : Option String
  version : String
  headers : Headers
deriving DecidableEq, Inhabited

namespace Head

/-- The request of a head and a body. A form submission is cut into parts. -/
def withBody (h : Head) (body : Bytes) : Except ParseError Request :=
  let request (multipart : Option Multipart) : Request :=
    { method := h.method, path := h.path, query := h.query, version := h.version,
      headers := h.headers, body, multipart }
  match h.headers.get? "Content-Type" with
  | none => .ok (request none)
  | some type =>
      match Multipart.boundaryOf type with
      | .error e => .error (.multipart e)
      | .ok none => .ok (request none)
      | .ok (some boundary) =>
          match Multipart.parse body boundary with
          | .error e => .error (.multipart e)
          | .ok form => .ok (request (some form))

/-! ## Finding the end -/

/-- Offset of the blank line that ends a head, when the bytes before `scanned`
are known not to hold one whole. -/
def findEnd (buf : Bytes) (scanned : Nat) : Option Nat :=
  let start := min scanned buf.length - 3
  (Bytes.indexOf? blankLine (buf.drop start)).map (start + ·)

/-! ## Reading -/

/-- Reads a request line: three words. -/
def parseLine (line : List Char) :
    Except ParseError (Method × String × Option String × String) :=
  match words line with
  | [method, target, version] =>
      match Method.ofName? (String.ofList method) with
      | none => .error .invalidMethod
      | some m =>
          if "HTTP/1.".toList.isPrefixOf version then
            match Target.parse? (String.ofList target) with
            | none => .error .invalidRequest
            | some (path, query) => .ok (m, path, query, String.ofList version)
          else .error .invalidVersion
  | _ => .error .invalidRequest

/-- Reads a header field. -/
def parseField (line : List Char) : Except ParseError (String × String) :=
  match splitOnce ':' line with
  | none => .error .invalidHeader
  | some (name, value) =>
      let name := trim name
      if name.isEmpty || name.any isBlank then .error .invalidHeader
      else .ok (String.ofList name, String.ofList (trim value))

/-- Reads the text of a head. Empty lines among the fields are skipped. -/
def parseText (text : List Char) : Except ParseError Head :=
  match crlfLines text with
  | [] => .error .invalidRequest
  | first :: lines =>
      match parseLine first with
      | .error e => .error e
      | .ok (method, path, query, version) =>
          match (lines.filter fun l => !l.isEmpty).mapM parseField with
          | .error e => .error e
          | .ok fields => .ok { method, path, query, version, headers := ⟨fields⟩ }

/-- Reads the head in front of a buffer: the head, and where the body starts. -/
def parse (buf : Bytes) (limits : Limits) : Except ParseError (Head × Nat) :=
  match findEnd buf 0 with
  | none =>
      if limits.maxHeader < buf.length then .error (.headersTooLarge limits.maxHeader)
      else .error .incomplete
  | some n =>
      if limits.maxHeader < n then .error (.headersTooLarge limits.maxHeader)
      else
        match text? (buf.take n) with
        | none => .error .invalidRequest
        | some text => (parseText text.toList).map fun h => (h, n + 4)

end Head

end Request

end WebServer
