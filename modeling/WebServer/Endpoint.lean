import WebServer.Chain
import WebServer.Route.Router
import WebServer.WebSocket.Handler

/-!
# WebServer.Endpoint

What a path can lead to: a handler of requests, or a handler of sessions.
-/

namespace WebServer

/-- What a path leads to. -/
inductive Endpoint where
  | http (h : Handler)
  | socket (h : WebSocket.Handler)

namespace Endpoint

/-- The name of the handler. -/
def name : Endpoint → String
  | .http h => h.name
  | .socket h => h.name

end Endpoint

/-- The mappings of a server. -/
abbrev Routes := Route.Router Endpoint Interceptor

/-- The mappings of a server being collected. -/
abbrev RoutesBuilder := Route.Builder Endpoint Interceptor

/-- A registration: patterns, and what they lead to or what stands before
them. -/
inductive Registration where
  | endpoint (patterns : List String) (e : Endpoint)
  | interceptor (patterns : List String) (i : Interceptor)

namespace Registration

/-- Adds a registration to the mappings. -/
def addTo (b : RoutesBuilder) : Registration → Except Route.RouteError RoutesBuilder
  | .endpoint ps e => b.endpoint ps e
  | .interceptor ps i => b.interceptor ps i

/-- Adds registrations in order and skips those that fail; tells the failures. -/
def addAll : RoutesBuilder → List Registration → List (Option Route.RouteError) × RoutesBuilder
  | b, [] => ([], b)
  | b, r :: rs =>
      match r.addTo b with
      | .ok b' =>
          let (errors, b'') := addAll b' rs
          (none :: errors, b'')
      | .error e =>
          let (errors, b'') := addAll b rs
          (some e :: errors, b'')

end Registration

/-- The answer to a request on a route, and what happened on the way. A route to
a handler of sessions answers no requests. -/
def Route.Resolved.execute (r : Route.Resolved Endpoint Interceptor) (q : Request) : ChainRun :=
  match r.endpoint with
  | .http h => Chain.run r.interceptors h q
  | .socket _ => { visits := [], request := q, delay := 0, outcome := .failed }

end WebServer
