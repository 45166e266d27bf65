import WebServer.Chain

/-!
# WebServer.Chain.Stock

Ready-made handlers and interceptors.
-/

namespace WebServer

namespace Handler

/-- The line with which `echo` describes a request. -/
def describe (r : Request) : String :=
  let attributes := ",".intercalate (r.sortedAttributes.map fun a => a.1 ++ "=" ++ a.2)
  r.method.name ++ " " ++ r.target ++ " " ++ r.version ++ " [" ++ attributes ++ "] " ++
    toString r.body.length ++ "\n"

/-- Answers with a description of the request and its body. -/
def echo (name : String) (delay : Nat) : Handler where
  name
  delay
  handle r := (r, .response (.ok (utf8 (describe r) ++ r.body)))

/-- Answers the same to every request. -/
def respond (name : String) (delay : Nat) (response : Response) : Handler where
  name
  delay
  handle r := (r, .response response)

/-- Fails. -/
def failing (name : String) (delay : Nat) : Handler where
  name
  delay
  handle r := (r, .failed)

/-- Panics. -/
def panicking (name : String) (delay : Nat) : Handler where
  name
  delay
  handle r := (r, .panicked)

/-- Answers with its name and the path, and leaves no record. -/
def named (name : String) : Handler where
  name
  quiet := true
  handle r := (r, .response (.ok (utf8 (name ++ " " ++ r.path))))

end Handler

namespace Interceptor

/-- Goes on, and hands on what the inner stages come to. -/
def pass (q : Request) : Option Response → Request × Outcome
  | some r => (q, .response r)
  | none => (q, .failed)

/-- Adds its name to the attribute `trace`, then goes on. -/
def tag (name : String) : Interceptor where
  name
  before r := (r.setAttribute "trace" ((r.attribute? "trace").getD "" ++ name), none)
  after := pass

/-- Goes on, then sets header fields of the response. -/
def header (name : String) (fields : List (String × String)) : Interceptor where
  name
  before r := (r, none)
  after
    | q, some r =>
        (q, .response { r with headers := fields.foldl (fun h f => h.insert f.1 f.2) r.headers })
    | q, none => (q, .failed)

/-- Answers without going on. -/
def respond (name : String) (response : Response) : Interceptor where
  name
  before r := (r, some (.response response))
  after := pass

/-- Sets the path of the request, then goes on. -/
def reroute (name path : String) : Interceptor where
  name
  before r := ({ r with path }, none)
  after := pass

/-- Goes on, and answers in place of an error. -/
def recover (name : String) (response : Response) : Interceptor where
  name
  before r := (r, none)
  after
    | q, some r => (q, .response r)
    | q, none => (q, .response response)

/-- Fails without going on. -/
def failing (name : String) : Interceptor where
  name
  before r := (r, some .failed)
  after := pass

/-- Goes on, then fails. -/
def failingAfter (name : String) : Interceptor where
  name
  before r := (r, none)
  after q _ := (q, .failed)

/-- Panics without going on. -/
def panicking (name : String) : Interceptor where
  name
  before r := (r, some .panicked)
  after := pass

end Interceptor

end WebServer
