/-!
# WebServer.Sock

The bookkeeping of one accepted connection. A sock is waiting (`fresh` or
`idle`), or a request cycle holds it (`processing`), or it is `closed` and never
used again. A cycle claims a waiting sock and releases it; whoever closes it
first wins. Times are in milliseconds and come from the caller.
-/

namespace WebServer

/-- What a connection is doing. -/
inductive SockState where
  /-- Accepted, no request seen yet. -/
  | fresh
  /-- A request cycle or a WebSocket delivery is in progress. -/
  | processing
  /-- Waiting for the next request or frame. -/
  | idle
  /-- Released. -/
  | closed
deriving DecidableEq, Inhabited

namespace SockState

/-- Whether no cycle holds the connection and it is not closed. -/
def isWaiting : SockState → Bool
  | .fresh | .idle => true
  | .processing | .closed => false

/-- The name under which a state is shown. -/
def name : SockState → String
  | .fresh => "Open"
  | .processing => "Processing"
  | .idle => "Idle"
  | .closed => "Closed"

end SockState

/-- One accepted connection. -/
structure Sock where
  peer : String := "127.0.0.1:50000"
  state : SockState := .fresh
  /-- When it was last active. -/
  lastActive : Nat := 0
deriving DecidableEq, Inhabited

namespace Sock

/-- Whether the connection is closed. -/
def isClosed (s : Sock) : Bool := s.state = .closed

/-- How long the connection has been inactive; 0 before its last activity. -/
def idleFor (s : Sock) (now : Nat) : Nat := now - s.lastActive

/-- Records activity. The time never goes back. -/
def touch (s : Sock) (now : Nat) : Sock := { s with lastActive := max s.lastActive now }

/-- Claims a waiting connection for a cycle. -/
def beginCycle (s : Sock) : Bool × Sock :=
  if s.state.isWaiting then (true, { s with state := .processing }) else (false, s)

/-- Releases the connection after a cycle, which counts as activity. Fails if it
was closed meanwhile, or no cycle held it. -/
def endCycle (s : Sock) (now : Nat) : Bool × Sock :=
  let s := s.touch now
  if s.state = .processing then (true, { s with state := .idle }) else (false, s)

/-- Closes the connection; tells whether it was open. -/
def close (s : Sock) : Bool × Sock :=
  if s.isClosed then (false, s) else (true, { s with state := .closed })

/-- Closes the connection if no cycle holds it. -/
def closeIfWaiting (s : Sock) : Bool × Sock :=
  if s.state.isWaiting then (true, { s with state := .closed }) else (false, s)

/-- Closes the connection if it has waited for more than `threshold`. -/
def tryReap (s : Sock) (now threshold : Nat) : Bool × Sock :=
  if s.idleFor now ≤ threshold then (false, s) else s.closeIfWaiting

/-- Reaps the connection unless it is seen beforehand that it has not waited for long enough. -/
def sweep (s : Sock) (now threshold : Nat) : Bool × Sock :=
  if s.idleFor now ≤ threshold then (false, s) else s.tryReap now threshold

/-- A cycle is claimed exactly on a waiting connection. -/
theorem beginCycle_fst (s : Sock) : s.beginCycle.1 = s.state.isWaiting := by
  unfold beginCycle
  split <;> simp_all

/-- A waiting connection is claimed. -/
theorem beginCycle_of_isWaiting {s : Sock} (h : s.state.isWaiting = true) :
    s.beginCycle = (true, { s with state := .processing }) := if_pos h

/-- A connection that a cycle holds is released, and waits. -/
theorem endCycle_of_processing {s : Sock} (now : Nat) (h : s.state = .processing) :
    s.endCycle now = (true, { s.touch now with state := .idle }) := if_pos h

/-- The look beforehand changes nothing. -/
theorem sweep_eq_tryReap (s : Sock) (now threshold : Nat) :
    s.sweep now threshold = s.tryReap now threshold := by
  unfold sweep tryReap
  split <;> rfl

theorem isClosed_of_isWaiting {s : Sock} (h : s.state.isWaiting = true) : s.isClosed = false := by
  rw [isClosed, decide_eq_false_iff_not]
  intro hclosed
  rw [hclosed] at h
  contradiction

/-- Closing closes, and tells whether there was something to close. -/
theorem close_eq (s : Sock) : s.close = (!s.isClosed, { s with state := .closed }) := by
  unfold close isClosed
  split
  · next h => cases s; simp_all
  · next h => simp_all

end Sock

end WebServer
