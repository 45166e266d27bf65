import WebServer.Route.Pattern

/-!
# WebServer.Route.Router

Which endpoint answers a path, and which interceptors stand before it. Endpoints
are ranked: an exact pattern wins over directories, the longest directory wins
over the others, then comes the extension, and last the fallback. Interceptors
are not ranked: all that match take part, in the order of registration.

Endpoints `ε` and interceptors `ι` are left open.
-/

namespace WebServer

namespace Route

/-- Why a registration fails. -/
inductive RouteError where
  | pattern (cause : PatternError)
  | duplicate (pattern : Pattern)
  | noPatterns
deriving DecidableEq, Repr

/-- The wording of a failure. -/
def RouteError.message : RouteError → String
  | .pattern e => e.message
  | .duplicate p => "URL pattern " ++ p.text ++ " is already mapped to a handler"
  | .noPatterns => "no URL patterns given"

/-- Mappings being collected. -/
structure Builder (ε ι : Type) where
  contextPath : String := ""
  /-- Endpoints by pattern, in order of registration. -/
  endpoints : List (Pattern × ε) := []
  /-- Interceptors by pattern, in order of registration. -/
  interceptors : List (Pattern × ι) := []

namespace Builder

variable {ε ι : Type}

/-- Reads the patterns of a registration. -/
def parseAll (texts : List String) : Except RouteError (List Pattern) :=
  if texts.isEmpty then .error .noPatterns
  else texts.mapM fun t => (Pattern.parse t).mapError .pattern

/-- The first pattern that is taken, by `taken` or earlier in the list. -/
def firstTaken? : List Pattern → List Pattern → Option Pattern
  | _, [] => none
  | taken, p :: ps => if taken.contains p then some p else firstTaken? (p :: taken) ps

/-- Maps patterns to an endpoint: all of them, or none when one is no pattern or
taken. -/
def endpoint (b : Builder ε ι) (texts : List String) (e : ε) :
    Except RouteError (Builder ε ι) :=
  match parseAll texts with
  | .error err => .error err
  | .ok ps =>
      match firstTaken? (b.endpoints.map (·.1)) ps with
      | some p => .error (.duplicate p)
      | none => .ok { b with endpoints := b.endpoints ++ ps.map fun p => (p, e) }

/-- Puts an interceptor before every path that one of the patterns matches. -/
def interceptor (b : Builder ε ι) (texts : List String) (i : ι) :
    Except RouteError (Builder ε ι) :=
  match parseAll texts with
  | .error err => .error err
  | .ok ps => .ok { b with interceptors := b.interceptors ++ ps.map fun p => (p, i) }

end Builder

/-- The mappings of a running server. -/
structure Router (ε ι : Type) where
  /-- What every path starts with, without a final slash. -/
  contextPath : String
  exact : List (String × ε)
  /-- Longest directory first. -/
  directories : List (String × ε)
  extensions : List (String × ε)
  fallback : Option ε
  interceptors : List (Pattern × ι)

/-- An endpoint chosen for a path, and the interceptors before it. -/
structure Resolved (ε ι : Type) where
  endpoint : ε
  pattern : Pattern
  interceptors : List ι

namespace Router

variable {ε ι : Type}

/-- Freezes the mappings. -/
def ofBuilder (b : Builder ε ι) : Router ε ι where
  contextPath := String.ofList
    (b.contextPath.toList.reverse.dropWhile (· = '/')).reverse
  exact := b.endpoints.filterMap fun
    | (.exact p, e) => some (p, e)
    | _ => none
  directories :=
    (b.endpoints.filterMap fun
      | (.under d, e) => some (d, e)
      | _ => none).mergeSort fun x y => y.1.utf8ByteSize ≤ x.1.utf8ByteSize
  extensions := b.endpoints.filterMap fun
    | (.ext x, e) => some (x, e)
    | _ => none
  fallback := b.endpoints.findSome? fun
    | (.fallback, e) => some e
    | _ => none
  interceptors := b.interceptors

/-- The context path as it is shown. -/
def shownContext (r : Router ε ι) : String := if r.contextPath.isEmpty then "/" else r.contextPath

/-- A path without the context path; `none` for a path outside. -/
def strip? (r : Router ε ι) (path : String) : Option String :=
  if r.contextPath.isEmpty then some path
  else
    match Pattern.after? r.contextPath.toList path.toList with
    | some [] => some "/"
    | some ('/' :: rest) => some (String.ofList ('/' :: rest))
    | _ => none

/-- The best endpoint for a path relative to the context path, and the pattern
it was mapped by. -/
def endpoint? (r : Router ε ι) (path : String) : Option (Pattern × ε) :=
  match r.exact.find? (·.1 == path) with
  | some (p, e) => some (.exact p, e)
  | none =>
      match r.directories.find? fun d => Pattern.isUnder d.1 path with
      | some (d, e) => some (.under d, e)
      | none =>
          match (Pattern.extension? path).bind fun x => r.extensions.find? (·.1 == x) with
          | some (x, e) => some (.ext x, e)
          | none => r.fallback.map fun e => (.fallback, e)

/-- The interceptors before a path relative to the context path. -/
def interceptorsFor (r : Router ε ι) (path : String) : List ι :=
  (r.interceptors.filter fun p => p.1.isMatch path).map (·.2)

/-- The endpoint and the interceptors for a whole path. -/
def resolve (r : Router ε ι) (path : String) : Option (Resolved ε ι) := do
  let rest ← r.strip? path
  let (pattern, endpoint) ← r.endpoint? rest
  return { endpoint, pattern, interceptors := r.interceptorsFor rest }

/-- The number of mapped patterns. -/
def endpointCount (r : Router ε ι) : Nat :=
  r.exact.length + r.directories.length + r.extensions.length + r.fallback.toList.length

end Router

end Route

end WebServer
