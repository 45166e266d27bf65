import WebServer.Config
import WebServer.Text.Lossy
import WebServer.Yaml.Node

/-!
# WebServer.Config.Reader

Reading a configuration from a YAML text: four sections, each with its fields,
and the default for whatever is missing. Fields with other names are ignored.
-/

namespace WebServer

namespace Config

open Yaml (Document Node)

/-- The value of a field, or its default if the field is missing. -/
def fieldOr {α : Type} (fields : List (String × Node)) (name : String)
    (read : Node → Option α) (dflt : α) : Option α :=
  match fields.lookup name with
  | some n => read n
  | none => some dflt

/-- Reads the section of the listening side. -/
def server? (d : Document) (n : Node) : Option ServerConfig := do
  let dflt : ServerConfig := {}
  let fs ← d.fields? ["listen_addr", "context_path", "keep_alive_time", "read_timeout",
    "reap_interval", "shutdown_timeout", "max_header_size", "max_body_size"] n
  return {
    listenAddr := ← fieldOr fs "listen_addr" d.text? dflt.listenAddr
    contextPath := ← fieldOr fs "context_path" d.text? dflt.contextPath
    keepAliveTime := ← fieldOr fs "keep_alive_time" d.nat? dflt.keepAliveTime
    readTimeout := ← fieldOr fs "read_timeout" d.nat? dflt.readTimeout
    reapInterval := ← fieldOr fs "reap_interval" d.nat? dflt.reapInterval
    shutdownTimeout := ← fieldOr fs "shutdown_timeout" d.nat? dflt.shutdownTimeout
    maxHeaderSize := ← fieldOr fs "max_header_size" d.nat? dflt.maxHeaderSize
    maxBodySize := ← fieldOr fs "max_body_size" d.nat? dflt.maxBodySize }

/-- Reads the section of the pool. -/
def pool? (d : Document) (n : Node) : Option PoolSection := do
  let dflt : PoolSection := {}
  let fs ← d.fields? ["enabled", "core_size", "max_size", "queue_size", "keep_alive_time"] n
  return {
    enabled := ← fieldOr fs "enabled" d.bool? dflt.enabled
    coreSize := ← fieldOr fs "core_size" d.nat? dflt.coreSize
    maxSize := ← fieldOr fs "max_size" d.nat? dflt.maxSize
    queueSize := ← fieldOr fs "queue_size" d.nat? dflt.queueSize
    keepAliveTime := ← fieldOr fs "keep_alive_time" d.nat? dflt.keepAliveTime }

/-- Reads a section of one field. -/
def only? {α : Type} (d : Document) (name : String) (read : Node → Option α) (dflt : α)
    (n : Node) : Option α := do
  fieldOr (← d.fields? [name] n) name read dflt

/-- Reads a whole configuration. -/
def ofNode? (d : Document) (n : Node) : Option Config := do
  let dflt : Config := {}
  let fs ← d.fields? ["server", "thread_pool", "websocket", "logging"] n
  return {
    server := ← fieldOr fs "server" (server? d) dflt.server
    pool := ← fieldOr fs "thread_pool" (pool? d) dflt.pool
    maxMessageSize :=
      ← fieldOr fs "websocket" (only? d "max_message_size" d.nat? dflt.maxMessageSize)
        dflt.maxMessageSize
    logLevel := ← fieldOr fs "logging" (only? d "level" d.text? dflt.logLevel) dflt.logLevel }

/-- Reads and checks a configuration. A text without a document gives the
defaults. -/
def ofYaml (text : String) : Except ConfigError Config :=
  match Document.parse text with
  | none => .error .parse
  | some d =>
      match d.root.elim (some {}) (ofNode? d) with
      | none => .error .parse
      | some c => c.validate

/-- Where a configuration comes from. -/
inductive Source where
  | defaults
  | missingFile
  | file (content : Bytes)

/-- Reads a file, which must hold UTF-8. -/
def Source.read : Source → Except ConfigError Config
  | .defaults => .ok {}
  | .missingFile => .error .read
  | .file content => (text? content).elim (.error .read) ofYaml

/-- Loads a configuration. An address given apart from the file replaces the
file's; what results is checked. -/
def load (source : Source) (listen : Option String) : Except ConfigError Config := do
  let c ← source.read
  let server := { c.server with listenAddr := listen.getD c.server.listenAddr }
  { c with server }.validate

end Config

end WebServer
