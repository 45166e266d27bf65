import WebServer.Cycle
import WebServer.Pool.Schedule
import WebServer.WebSocket.Session

/-!
# WebServer.Serve

Serving one connection until it closes: wait for the bytes of a request, claim
the sock, run one cycle, release the sock, and start over; or hand the
connection to a session when the client switches protocols. Cycles run on a
worker of a pool, if there is one; without a free worker the client is turned
away.
-/

namespace WebServer

/-- What serving a connection needs. -/
structure ServeConfig where
  routes : Routes
  /-- The most bytes of a message of a session. -/
  messageLimit : Nat

/-- A connection being served, and the pool that runs its cycles. -/
structure Service where
  conn : Conn
  pool : Option Schedule

namespace Service

/-- How serving a connection goes on after a cycle. -/
inductive Next where
  /-- The cycle has run. -/
  | ran (e : CycleEnd)
  /-- The pool took no more tasks. -/
  | turnedAway
  /-- No worker ever takes the cycle. -/
  | stranded

/-- Applies a change to the link. -/
def onLink (s : Service) (f : Link → Link) : Service :=
  { s with conn := { s.conn with link := f s.conn.link } }

/-- The label of the cycle that the connection runs. -/
def cycleLabel : String := "cycle"

/-- Runs a cycle: on the connection's own account, or on a worker of the pool
once the pool's clock has caught up. -/
def runCycle (cfg : ServeConfig) (s : Service) : Next × Service :=
  match s.pool with
  | none =>
      let (e, conn) := Cycle.run cfg.routes s.conn
      (.ran e, { s with conn })
  | some pool =>
      let (admission, pool) := (pool.advanceTo s.conn.link.now).submit cycleLabel .gated
      if admission = .rejected then (.turnedAway, { s with pool := some pool })
      else if pool.pool.isRunning (pool.jobs.length - 1) then
        let (e, conn) := Cycle.run cfg.routes s.conn
        let (_, pool) := (pool.advanceTo conn.link.now).release cycleLabel
        (.ran e, { conn, pool := some pool })
      else (.stranded, { s with pool := some pool })

/-- Turns the client away. -/
def turnAway (s : Service) : Bool × Service :=
  let w := Response.Writer.ofResponse .serviceUnavailable .closing
  match Conn.writeResponse s.conn.link w (fun _ => false) with
  | (.stuck, link) => (false, s.onLink fun _ => link)
  | (_, link) => (true, s.onLink fun _ => link.closeSock)

/-- Waits for ever. -/
def waitForever (s : Service) : Service :=
  s.onLink fun l => (l.await (α := Unit) (fun _ => none) none).2

/-- Hands the connection to a session. -/
def runSession (cfg : ServeConfig) (s : Service) (h : WebSocket.Handler) : Bool × Service :=
  let session : WebSocket.SessionConfig :=
    { handler := h, limit := cfg.messageLimit, patience := s.conn.patience }
  match WebSocket.Session.run session s.conn.reader.buffer false s.conn.link with
  | (true, link) => (true, s.onLink fun _ => link.closeSock)
  | (false, link) => (false, s.onLink fun _ => link)

/-- What stands before a cycle. -/
inductive Before where
  | go
  | stop
  | stuck

/-- Claims the sock for a cycle. -/
def claim (s : Service) : Before × Service :=
  let (ok, link) := s.conn.link.onSock Sock.beginCycle
  (if ok then .go else .stop, s.onLink fun _ => link)

/-- Waits for the bytes of a request, unless some are there, and claims the sock.
While it waits a shutdown ends the connection. -/
def prepare (s : Service) : Before × Service :=
  if s.conn.reader.hasBuffered then s.claim
  else
    match s.conn.fill fun l => l.sock.isClosed || l.shutdown with
    | (.filled 0, conn) => (.stop, { s with conn })
    | (.filled _, conn) => claim { s with conn }
    | (.failed, conn) | (.interrupted, conn) => (.stop, { s with conn })
    | (.stuck, conn) => (.stuck, { s with conn })

/-- Closes the sock at the end. -/
def close (s : Service) : Bool × Service := (true, s.onLink Link.closeSock)

/-- Releases the sock after a cycle; tells whether it is still open. -/
def release (s : Service) : Bool × Service :=
  let l := s.conn.link
  let (ok, link) := l.onSock (Sock.endCycle · l.now)
  (ok, s.onLink fun _ => link)

/-- Serves the connection for at most `n` cycles. Tells whether it came to an
end. -/
def serveWithin (cfg : ServeConfig) : Nat → Service → Bool × Service
  | 0, s => (false, s)
  | n + 1, s =>
      match s.prepare with
      | (.stop, s) => s.close
      | (.stuck, s) => (false, s)
      | (.go, s) =>
          match runCycle cfg s with
          | (.turnedAway, s) => s.turnAway
          | (.stranded, s) => (false, s.waitForever)
          | (.ran .close, s) => s.close
          | (.ran .stuck, s) => (false, s)
          | (.ran .keepAlive, s) =>
              match s.release with
              | (true, s) => if s.conn.link.shutdown then s.close else serveWithin cfg n s
              | (false, s) => s.close
          | (.ran (.upgrade h), s) =>
              match s.release with
              | (true, s) => runSession cfg s h
              | (false, s) => s.close

/-- Serves the connection until it closes. Each cycle but the last takes bytes,
so their number is a bound. -/
def serve (cfg : ServeConfig) (s : Service) : Bool × Service :=
  serveWithin cfg (s.conn.reader.buffer.length + s.conn.link.supply + 2) s

end Service

end WebServer
