import Mathlib.Data.Finset.Insert
import WebServer.Endpoint

/-!
# WebServer.Route.Registry

Mappings collected in place. A registry is changed by each call, and what a call has changed stays
when it fails (`Call`). Beside the endpoints it keeps the set of the patterns that are taken; a call
looks through all of its patterns before it maps the first of them. Freezing files the mappings in
the tables of a router one after the other, where a later one takes the place of an earlier one with
the same key.
-/

namespace WebServer

namespace Route

/-- Mappings being collected in place. -/
structure Registry (ε ι : Type) where
  contextPath : String := ""
  /-- Endpoints by pattern, in order of registration. -/
  endpoints : List (Pattern × ε) := []
  /-- The patterns of the endpoints. -/
  taken : Finset Pattern := ∅
  /-- Interceptors by pattern, in order of registration. -/
  interceptors : List (Pattern × ι) := []

namespace Registry

variable {ε ι : Type}

/-- A call that changes a registry, and may fail. -/
abbrev Call (ε ι α : Type) := EStateM RouteError (Registry ε ι) α

/-- Reads the patterns of a call. -/
def read (texts : List String) : Call ε ι (List Pattern) :=
  match Builder.parseAll texts with
  | .error err => throw err
  | .ok ps => pure ps

/-- Looks whether patterns are free: not taken, and not among those seen before them. -/
def check (seen : Finset Pattern) : List Pattern → Call ε ι Unit
  | [] => pure ()
  | p :: ps => do
      if p ∈ (← get).taken ∨ p ∈ seen then throw (.duplicate p)
      check (insert p seen) ps

/-- Maps a pattern to an endpoint. -/
def put (r : Registry ε ι) (e : ε) (p : Pattern) : Registry ε ι :=
  { r with taken := insert p r.taken, endpoints := r.endpoints ++ [(p, e)] }

/-- Puts an interceptor before the paths that a pattern matches. -/
def guard (r : Registry ε ι) (i : ι) (p : Pattern) : Registry ε ι :=
  { r with interceptors := r.interceptors ++ [(p, i)] }

/-- Maps patterns to an endpoint. -/
def endpoint (texts : List String) (e : ε) : Call ε ι Unit := do
  let ps ← read texts
  check ∅ ps
  ps.forM fun p => modify (·.put e p)

/-- Puts an interceptor before every path that one of the patterns matches. -/
def interceptor (texts : List String) (i : ι) : Call ε ι Unit := do
  let ps ← read texts
  ps.forM fun p => modify (·.guard i p)

end Registry

/-- Puts a value under a key. A value that was under it before is lost. -/
def insertKey {ε : Type} (key : String) (e : ε) : List (String × ε) → List (String × ε)
  | [] => [(key, e)]
  | (key', e') :: es =>
      if key' = key then (key, e) :: es else (key', e') :: insertKey key e es

namespace Router

variable {ε ι : Type}

/-- Files a mapping in the table of its kind. -/
def file (r : Router ε ι) : Pattern × ε → Router ε ι
  | (.exact path, e) => { r with exact := insertKey path e r.exact }
  | (.under d, e) => { r with directories := r.directories ++ [(d, e)] }
  | (.ext x, e) => { r with extensions := insertKey x e r.extensions }
  | (.fallback, e) => { r with fallback := some e }

/-- Puts the longest directory first. -/
def sortDirectories (r : Router ε ι) : Router ε ι :=
  { r with directories := r.directories.mergeSort fun x y => y.1.utf8ByteSize ≤ x.1.utf8ByteSize }

/-- The endpoint that a pattern is mapped to. -/
def mapped? (r : Router ε ι) : Pattern → Option ε
  | .exact path => r.exact.lookup path
  | .under d => r.directories.lookup d
  | .ext x => r.extensions.lookup x
  | .fallback => r.fallback

end Router

namespace Registry

variable {ε ι : Type}

/-- A router without mappings of endpoints. -/
def bare (r : Registry ε ι) : Router ε ι where
  contextPath := String.ofList (r.contextPath.toList.reverse.dropWhile (· = '/')).reverse
  exact := []
  directories := []
  extensions := []
  fallback := none
  interceptors := r.interceptors

/-- Freezes the mappings. -/
def freeze (r : Registry ε ι) : Router ε ι := (r.endpoints.foldl Router.file r.bare).sortDirectories

end Registry

end Route

namespace Registration

open Route

/-- A registration as a call. -/
def call : Registration → Registry.Call Endpoint Interceptor Unit
  | .endpoint ts e => Registry.endpoint ts e
  | .interceptor ts i => Registry.interceptor ts i

/-- Makes calls in order, whether they fail or not; tells the failures. -/
def callAll (r : Registry Endpoint Interceptor) :
    List Registration → List (Option RouteError) × Registry Endpoint Interceptor
  | [] => ([], r)
  | c :: cs =>
      match c.call.run r with
      | .ok () r' =>
          let (errors, r'') := callAll r' cs
          (none :: errors, r'')
      | .error err r' =>
          let (errors, r'') := callAll r' cs
          (some err :: errors, r'')

end Registration

end WebServer
