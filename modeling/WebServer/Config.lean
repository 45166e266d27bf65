import WebServer.Pool
import WebServer.Text.Quoted

/-!
# WebServer.Config

The configuration of a server, its defaults, and the values it may hold.

Main statement: a configuration that is accepted gives a pool at least one
worker (`one_le_max_poolConfig`), and no fewer at most than at least.
-/

namespace WebServer

/-- The listening side. Times are in seconds. -/
structure ServerConfig where
  /-- The address to bind, `host:port`. -/
  listenAddr : String := "127.0.0.1:8080"
  /-- What request paths start with before they are matched. -/
  contextPath : String := "/"
  /-- How long a connection may be idle. -/
  keepAliveTime : Nat := 60
  /-- How long a read waits once a request has begun. -/
  readTimeout : Nat := 30
  /-- The time between two sweeps of the reaper. -/
  reapInterval : Nat := 1
  /-- How long stopping waits for requests. -/
  shutdownTimeout : Nat := 30
  maxHeaderSize : Nat := 64 * 1024
  maxBodySize : Nat := 10 * 1024 * 1024
deriving DecidableEq, Inhabited

/-- The pool of workers. -/
structure PoolSection where
  /-- Without a pool each connection runs its own cycles. -/
  enabled : Bool := true
  coreSize : Nat := 8
  maxSize : Nat := 64
  queueSize : Nat := 256
  /-- How many seconds an extra worker may be idle. -/
  keepAliveTime : Nat := 60
deriving DecidableEq, Inhabited

/-- The configuration of a server. -/
structure Config where
  server : ServerConfig := {}
  pool : PoolSection := {}
  /-- The most bytes of a message of a session. -/
  maxMessageSize : Nat := 16 * 1024 * 1024
  /-- Which messages are logged. -/
  logLevel : String := "info"
deriving DecidableEq, Inhabited

/-- Why a configuration cannot be used. -/
inductive ConfigFault where
  | noWorkers
  | maxBelowCore (max core : Nat)
  | noReapInterval
  | contextPath (path : String)
deriving DecidableEq, Repr

/-- The wording of a fault. -/
def ConfigFault.message : ConfigFault → String
  | .noWorkers => "thread_pool.max_size must be at least 1"
  | .maxBelowCore max core =>
      "thread_pool.max_size (" ++ toString max ++ ") is below core_size (" ++ toString core ++ ")"
  | .noReapInterval => "server.reap_interval must be at least 1 second"
  | .contextPath path => "server.context_path must start with '/', got " ++ quoted path

/-- Why there is no configuration. -/
inductive ConfigError where
  /-- The file cannot be read as text. -/
  | read
  /-- The text is no configuration. -/
  | parse
  | invalid (fault : ConfigFault)
deriving DecidableEq, Repr

/-- The wording of an error. -/
def ConfigError.message : ConfigError → String
  | .read => "failed to read config file"
  | .parse => "invalid config"
  | .invalid fault => "invalid config value: " ++ fault.message

namespace Config

/-- The first fault of a configuration. -/
def fault? (c : Config) : Option ConfigFault :=
  if c.pool.enabled ∧ c.pool.maxSize = 0 then some .noWorkers
  else if c.pool.enabled ∧ c.pool.maxSize < c.pool.coreSize then
    some (.maxBelowCore c.pool.maxSize c.pool.coreSize)
  else if c.server.reapInterval = 0 then some .noReapInterval
  else if c.server.contextPath.toList.head? ≠ some '/' then
    some (.contextPath c.server.contextPath)
  else none

/-- The configuration, if it has no fault. -/
def validate (c : Config) : Except ConfigError Config :=
  match c.fault? with
  | some fault => .error (.invalid fault)
  | none => .ok c

end Config

/-- The sizes of the pool that a section asks for: there is always room for a
worker, and for those that always stay. -/
def PoolSection.poolConfig (s : PoolSection) : PoolConfig where
  core := s.coreSize
  max := max (max s.maxSize s.coreSize) 1
  queue := s.queueSize
  keepAlive := s.keepAliveTime * 1000

/-- A pool has room for a worker. -/
theorem PoolSection.one_le_max_poolConfig (s : PoolSection) : 1 ≤ s.poolConfig.max :=
  Nat.le_max_right _ _

/-- A pool has room for the workers that always stay. -/
theorem PoolSection.core_le_max_poolConfig (s : PoolSection) :
    s.poolConfig.core ≤ s.poolConfig.max :=
  Nat.le_trans (Nat.le_max_right _ _) (Nat.le_max_left _ _)

end WebServer
