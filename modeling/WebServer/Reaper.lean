import WebServer.SockTable

/-!
# WebServer.Reaper

The reaper closes, once in every period, the connections that have waited for
too long for their next request. It ticks at 0, one period, two periods and so
on until the server shuts down. Its clock runs apart from that of the
connections' activity, which lies in its past.
-/

namespace WebServer

/-- A reaper at work on a table of connections. -/
structure Reaper where
  table : SockTable
  keepAlive : Nat
  period : Nat
  /-- The time on the reaper's clock. -/
  now : Nat := 0
  /-- The tick that comes next. -/
  nextTick : Nat := 0
  running : Bool := true
deriving Inhabited

namespace Reaper

/-- The instant of a sweep on the activity clock: after everything so far. -/
def sweepTime (t : SockTable) : Nat :=
  (t.entries.map (·.sock.lastActive)).foldl max 0 + 1

/-- Closes what is overdue. -/
def sweep (r : Reaper) : Reaper :=
  { r with table := (r.table.sweep (sweepTime r.table) r.keepAlive).2 }

/-- Runs the ticks that are due at `now`, at most `n` of them. -/
def ticks : Nat → Reaper → Reaper
  | 0, r => r
  | n + 1, r =>
      if r.running && r.nextTick ≤ r.now && 0 < r.period then
        ticks n { r.sweep with nextTick := r.nextTick + r.period }
      else r

/-- Lets time pass. -/
def advance (r : Reaper) (ms : Nat) : Reaper :=
  let r := { r with now := r.now + ms }
  ticks (r.now + 1) r

/-- Stops the reaper. -/
def stop (r : Reaper) : Reaper := { r with running := false }

end Reaper

end WebServer
