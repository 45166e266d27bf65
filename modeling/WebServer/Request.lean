import WebServer.Headers
import WebServer.Method
import WebServer.Multipart
import WebServer.Target
import WebServer.Target.Query
import WebServer.Text.Number

/-!
# WebServer.Request

A request as handlers see it: the body is decoded, a submitted form is cut into
parts, and interceptors may have attached attributes.
-/

namespace WebServer

/-- A complete request. -/
structure Request where
  method : Method
  /-- The target without its query. -/
  path : String
  /-- What followed the question mark of the target. -/
  query : Option String := none
  version : String := "HTTP/1.1"
  headers : Headers := .empty
  body : Bytes := []
  /-- The parts, when the body is a form submission. -/
  multipart : Option Multipart := none
  /-- What interceptors attached, each key once. -/
  attributes : List (String × String) := []
deriving DecidableEq, Inhabited

namespace Request

/-! ## What the header fields say -/

/-- The declared length of the body; 0 when it is missing or no number. -/
def contentLength (r : Request) : Nat :=
  ((r.headers.get? "Content-Length").bind fun v => decimal? (trimText v)).getD 0

/-- The media type of the body, without parameters. -/
def contentType (r : Request) : Option String :=
  (r.headers.get? "Content-Type").map Multipart.mediaType

/-- Whether the request speaks version 1.0. -/
def isHttp10 (r : Request) : Bool := sameName r.version "HTTP/1.0"

/-- Whether the connection should outlive the response. Version 1.0 closes
unless asked to stay, later versions stay unless asked to close. -/
def keepAlive (r : Request) : Bool :=
  if r.headers.hasToken "Connection" "close" then false
  else if r.isHttp10 then r.headers.hasToken "Connection" "keep-alive"
  else true

/-! ## The target -/

/-- The parameters of the query, in order. -/
def queryParams (r : Request) : List (String × String) := (r.query.map Query.params).getD []

/-- The value of the first query parameter of a name. -/
def queryParam? (r : Request) (name : String) : Option String :=
  r.query.bind fun q => Query.param? q name

/-- The path with its query. -/
def target (r : Request) : String := Target.join r.path r.query

/-! ## Attributes -/

/-- The attribute of a key. -/
def attribute? (r : Request) (key : String) : Option String :=
  (r.attributes.find? (·.1 == key)).map (·.2)

/-- Sets the attribute of a key. -/
def setAttribute (r : Request) (key value : String) : Request :=
  { r with attributes := r.attributes.filter (·.1 != key) ++ [(key, value)] }

/-- The attributes in the order of their keys. -/
def sortedAttributes (r : Request) : List (String × String) :=
  r.attributes.mergeSort fun a b => a.1 ≤ b.1

/-! ## Building -/

/-- Why a request cannot be built. -/
inductive BuildError where
  | methodMissing
  | pathMissing
deriving DecidableEq

/-- The wording of a failure to build. -/
def BuildError.message : BuildError → String
  | .methodMissing => "method missing"
  | .pathMissing => "path missing"

/-- A request under construction. -/
structure Builder where
  method : Option Method := none
  path : Option String := none
  query : Option String := none
  version : Option String := none
  headers : Headers := .empty
  body : Bytes := []

namespace Builder

/-- Sets path and query from a target. -/
def withTarget (b : Builder) (target : String) : Builder :=
  let (path, query) := Target.split target
  { b with path := some path, query }

/-- Adds a header field. -/
def header (b : Builder) (name value : String) : Builder :=
  { b with headers := b.headers.append name value }

/-- The finished request: a method and a path are required. -/
def build (b : Builder) : Except BuildError Request :=
  match b.method, b.path with
  | none, _ => .error .methodMissing
  | some _, none => .error .pathMissing
  | some method, some path =>
      .ok {
        method, path
        query := b.query
        version := b.version.getD "HTTP/1.1"
        headers := b.headers
        body := b.body }

end Builder

end Request

end WebServer
