import WebServer.Chain
import WebServer.Sock
import WebServer.WebSocket.Handler

/-!
# WebServer.Trace

The record of what happens on a connection: calls of handlers and hooks, what
hooks find out, and what is done to the connection from outside.
-/

namespace WebServer

/-- Something that happened on a connection. -/
inductive Event where
  /-- A stage of a chain was called. -/
  | visited (v : Visit)
  /-- A session opened. -/
  | opened
  /-- A message or fragment was handed over. -/
  | delivered (d : WebSocket.Delivery)
  /-- A session ended with a code; the flag tells whether it was closing. -/
  | ended (code : UInt16) (closing : Bool)
  /-- A hook learned whether its session is closing. -/
  | askedClosing (closing : Bool)
  /-- A hook failed to send. -/
  | sendFailed
  /-- The connection was closed from outside; the flag tells whether it was
  open. -/
  | sockClosed (done : Bool)
  /-- The connection was reaped, or was found busy. -/
  | sockReaped (done : Bool)
  /-- The state of the connection and the number of bytes written so far. -/
  | observed (state : SockState) (written : Nat)
deriving DecidableEq

/-- The wording of a failed send on a session. -/
def WebSocket.sendFailedMessage : String := "WebSocket session closed"

end WebServer
