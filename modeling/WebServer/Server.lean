import WebServer.Address
import WebServer.Config
import WebServer.Serve
import WebServer.SockTable

/-!
# WebServer.Server

A server's life: routes are registered while it is configured, initialising
binds the address and freezes the routes, and then it starts, stops and is
destroyed. A call that does not fit the phase fails and changes nothing.

Main statement: a call that fails leaves the server as it was
(`eq_of_perform_error`).
-/

namespace WebServer

/-- The phases of a server's life. -/
inductive Phase where
  | configured | initialized | running | stopped | destroyed
deriving DecidableEq, Inhabited

/-- The name under which a phase is shown. -/
def Phase.name : Phase → String
  | .configured => "Configured"
  | .initialized => "Initialized"
  | .running => "Running"
  | .stopped => "Stopped"
  | .destroyed => "Destroyed"

/-- What can be asked of a server. -/
inductive Call where
  | register (r : Registration)
  | init
  | start
  | stop
  | destroy

/-- What a call does to a server, as error messages say it. -/
def Call.action : Call → String
  | .register (.endpoint _ (.http _)) => "register a handler on"
  | .register (.endpoint _ (.socket _)) => "register a WebSocket endpoint on"
  | .register (.interceptor _ _) => "register an interceptor on"
  | .init => "initialize"
  | .start => "start"
  | .stop => "stop"
  | .destroy => "destroy"

/-- Why a call fails. -/
inductive ServerError where
  /-- The call does not fit the phase. -/
  | lifecycle (action : String) (phase : Phase)
  /-- The address cannot be bound. -/
  | bind (address : String)
  | config (cause : ConfigError)
  | route (cause : Route.RouteError)

/-- The wording of an error. -/
def ServerError.message : ServerError → String
  | .lifecycle action phase => "cannot " ++ action ++ " a server that is " ++ phase.name
  | .bind address => "failed to bind " ++ address
  | .config e => e.message
  | .route e => e.message

/-- A server. -/
structure Server where
  config : Config
  phase : Phase := .configured
  /-- The routes that are being registered. -/
  builder : RoutesBuilder
  /-- The routes, once they are frozen. -/
  routes : Option Routes := none
  pool : Option Schedule := none
  /-- The connections, in one set for each address. -/
  socks : SockTable := SockTable.ofSets 0
  /-- The addresses that the server is bound to. -/
  addresses : List String := []
  /-- Whether connections are told to end. -/
  ending : Bool := false

namespace Server

/-- A server that is configured. -/
def ofConfig (config : Config) : Server where
  config
  builder := { contextPath := config.server.contextPath }

/-- The number of open connections. -/
def connectionCount (s : Server) : Nat :=
  ((List.range s.socks.sets.length).flatMap fun i => s.socks.members i).length

/-- Applies an operation to each of the first `n` sets of connections. -/
def onSets (op : SockTable → Nat → Nat × SockTable) : Nat → SockTable → SockTable
  | 0, t => t
  | n + 1, t => (op (onSets op n t) n).2

/-- What a call answers: an error or none, and the server afterwards. -/
abbrev Answer := Option ServerError × Server

/-- Binds the address, freezes the routes and makes the pool. -/
def init (bindable : String → Bool) (s : Server) : Answer :=
  match s.config.fault? with
  | some fault => (some (.config (.invalid fault)), s)
  | none =>
      let address := s.config.server.listenAddr
      if bindable address then
        (none, { s with
          phase := .initialized
          routes := some (.ofBuilder s.builder)
          pool :=
            if s.config.pool.enabled then some (.ofConfig s.config.pool.poolConfig) else none
          socks := { s.socks with sets := s.socks.sets ++ [some []] }
          addresses := s.addresses ++ [address] })
      else (some (.bind address), s)

/-- Tells the connections to end, closes those that no cycle holds, waits for the
others as long as the configuration says, and lets the pool finish. -/
def stop (s : Server) : Server :=
  let s := { s with
    phase := .stopped
    ending := true
    socks := onSets SockTable.closeWaiting s.socks.sets.length s.socks }
  let patience := if s.connectionCount = 0 then s.config.server.shutdownTimeout * 1000 else 0
  { s with pool := s.pool.map fun p => (p.shutdown.drain patience).2 }

/-- Closes every connection and gives the pool up. -/
def destroy (s : Server) : Server :=
  { s with
    phase := .destroyed
    ending := true
    socks := onSets SockTable.closeAll s.socks.sets.length s.socks
    pool := none }

/-- Whether a call fits a phase. -/
def fits : Call → Phase → Bool
  | .register _, .configured | .init, .configured | .start, .initialized | .stop, .running => true
  | .destroy, .initialized | .destroy, .running | .destroy, .stopped => true
  | _, _ => false

/-- Performs a call. -/
def perform (bindable : String → Bool) (s : Server) (c : Call) : Answer :=
  if fits c s.phase then
    match c with
    | .register r =>
        match r.addTo s.builder with
        | .ok builder => (none, { s with builder })
        | .error e => (some (.route e), s)
    | .init => s.init bindable
    -- an initialized server has its routes, so a start is never refused for want of them
    | .start => (none, { s with phase := .running })
    | .stop => (none, s.stop)
    | .destroy => (none, s.destroy)
  else (some (.lifecycle c.action s.phase), s)

/-! ## Failing calls -/

/-- A call that fails leaves the server as it was. -/
theorem eq_of_perform_error {bindable : String → Bool} {s t : Server} {c : Call}
    {e : ServerError} (h : s.perform bindable c = (some e, t)) : t = s := by
  unfold perform at h
  split at h
  · split at h
    · split at h <;> simp_all
    · unfold init at h
      split at h
      · simp_all
      · dsimp only at h
        split at h <;> simp_all
    all_goals simp at h
  · simp_all

end Server

end WebServer
