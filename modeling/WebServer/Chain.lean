import WebServer.Request
import WebServer.Response

/-!
# WebServer.Chain

Answering a request: interceptors stand around a handler like the layers of an
onion. Each may change the request and go on, or answer without going on; when
the inner stages are done it may change what they came to. A panic passes
through all outer stages, an error only through those that let it.

```
request  →  first.before  →  second.before  →  handler
response ←  first.after   ←  second.after   ←
```
-/

namespace WebServer

/-- What a stage of the chain comes to. -/
inductive Outcome where
  | response (r : Response)
  | failed
  | panicked
deriving DecidableEq, Inhabited

namespace Outcome

/-- The response owed to the client: errors and panics are internal errors. -/
def toResponse : Outcome → Response
  | .response r => r
  | .failed | .panicked => .internalError

end Outcome

/-- The last stage of a chain. -/
structure Handler where
  name : String
  /-- Whether its calls are left out of the record. -/
  quiet : Bool := false
  /-- How long it takes, in milliseconds. -/
  delay : Nat := 0
  /-- The request as it is left, and what the handler comes to. -/
  handle : Request → Request × Outcome

/-- A stage before the handler. -/
structure Interceptor where
  name : String
  /-- The request as it is left, and what the stage comes to if it does not go on. -/
  before : Request → Request × Option Outcome
  /-- The request as it is left, and what becomes of the inner stages' response, or of their
  error. -/
  after : Request → Option Response → Request × Outcome

/-- A call of a stage. -/
inductive Visit where
  | handler (name : String) (method : Method) (target : String)
  | interceptor (name : String)
deriving DecidableEq

/-- A run of a chain. -/
structure ChainRun where
  /-- The calls, in order. -/
  visits : List Visit
  /-- The request with what the stages changed. -/
  request : Request
  /-- How long the handler takes. -/
  delay : Nat
  outcome : Outcome

namespace Chain

/-- Calls the handler. -/
def call (h : Handler) (r : Request) : ChainRun where
  visits := if h.quiet then [] else [.handler h.name r.method r.target]
  request := (h.handle r).1
  delay := h.delay
  outcome := (h.handle r).2

/-- What an interceptor makes of the inner stages' outcome. A panic passes it by. -/
def close (i : Interceptor) : Request × Outcome → Request × Outcome
  | (q, .response r) => i.after q (some r)
  | (q, .failed) => i.after q none
  | (q, .panicked) => (q, .panicked)

/-- Runs a chain. -/
def run : List Interceptor → Handler → Request → ChainRun
  | [], h, r => call h r
  | i :: is, h, r =>
      match i.before r with
      | (r, some o) => { visits := [.interceptor i.name], request := r, delay := 0, outcome := o }
      | (r, none) =>
          let inner := run is h r
          let (request, outcome) := close i (inner.request, inner.outcome)
          { visits := .interceptor i.name :: inner.visits
            request
            delay := inner.delay
            outcome }

end Chain

end WebServer
