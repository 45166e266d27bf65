import WebServer.Link.Sink
import WebServer.Trace

/-!
# WebServer.Link

One connection as the server meets it: the bytes that have arrived, what the
client will still do and when, the sink, and the connection's sock. Time moves
only while the server waits. `await` lets the client act until what the server
waits for has come; waiting is given up at a deadline, and for good at the
horizon.
-/

namespace WebServer

/-- How the client's side of a connection has ended. -/
inductive Tail where
  /-- More may come. -/
  | quiet
  | eof
  /-- Reads fail. -/
  | reset
deriving DecidableEq, Inhabited

/-- Something that happens to a connection at an instant. -/
inductive Act where
  /-- Bytes arrive. -/
  | bytes (bs : Bytes)
  | eof
  | reset
  /-- The sock is closed from outside. -/
  | close
  /-- The sock is reaped if it is waiting. -/
  | reap
  /-- The server is told to shut down. -/
  | shutdown
  /-- The producers of held streams are done. -/
  | dropSenders
  /-- The state is recorded. -/
  | observe
deriving DecidableEq

/-- How long waiting goes on before it is given up for good: a day. -/
def patienceSpan : Nat := 86400000

/-- A connection in time. -/
structure Link where
  /-- The time, in milliseconds. -/
  now : Nat := 0
  /-- When waiting is given up for good. -/
  horizon : Nat := patienceSpan
  /-- What is still to happen, and when. -/
  timeline : List (Nat × Act) := []
  /-- The bytes that have arrived and are not read. -/
  inbox : Bytes := []
  tail : Tail := .quiet
  sink : Sink := {}
  sock : Sock := {}
  /-- Whether the server is shutting down. -/
  shutdown : Bool := false
  /-- How often the producers of held streams were done. -/
  drops : Nat := 0
  /-- What happened, latest first. -/
  trace : List Event := []
deriving DecidableEq, Inhabited

namespace Link

/-- Records an event. -/
def log (l : Link) (e : Event) : Link := { l with trace := e :: l.trace }

/-- Records the calls of a chain. -/
def logVisits (l : Link) (vs : List Visit) : Link := vs.foldl (fun l v => l.log (.visited v)) l

/-- What happened, in order. -/
def events (l : Link) : List Event := l.trace.reverse

/-- Applies an operation to the sock. -/
def onSock (l : Link) (op : Sock → Bool × Sock) : Bool × Link :=
  let (result, sock) := op l.sock
  (result, { l with sock })

/-- Closes the sock. -/
def closeSock (l : Link) : Link := (l.onSock Sock.close).2

/-- Lets something happen. -/
def perform (l : Link) : Act → Link
  | .bytes bs => { l with inbox := l.inbox ++ bs }
  | .eof => { l with tail := .eof }
  | .reset => { l with tail := .reset }
  | .close =>
      let (done, l) := l.onSock Sock.close
      l.log (.sockClosed done)
  | .reap =>
      let (done, l) := l.onSock Sock.closeIfWaiting
      l.log (.sockReaped done)
  | .shutdown => { l with shutdown := true }
  | .dropSenders => { l with drops := l.drops + 1 }
  | .observe => l.log (.observed l.sock.state l.sink.count)

theorem timeline_perform (l : Link) (a : Act) : (l.perform a).timeline = l.timeline := by
  cases a <;> rfl

/-! ## Waiting -/

/-- What waiting comes to. -/
inductive Wait (α : Type) where
  | ready (a : α)
  /-- The deadline has passed. -/
  | timeout
  /-- Nothing more will happen. -/
  | stuck
deriving DecidableEq

/-- Gives up waiting at a deadline, or for good. -/
def giveUp (l : Link) (deadline : Option Nat) {α : Type} : Wait α × Link :=
  match deadline with
  | some d =>
      if d ≤ l.horizon then (.timeout, { l with now := max l.now d })
      else (.stuck, { l with now := l.horizon })
  | none => (.stuck, { l with now := l.horizon })

/-- Whether a deadline has passed at an instant; at its own instant it has. -/
def isPast (t : Nat) : Option Nat → Bool
  | some d => d ≤ t
  | none => false

/-- Lets the client act until something is ready. What the client does at the
deadline comes too late. -/
def await {α : Type} (ready : Link → Option α) (deadline : Option Nat) (l : Link) :
    Wait α × Link :=
  match ready l with
  | some a => (.ready a, l)
  | none =>
      match _h : l.timeline with
      | [] => l.giveUp deadline
      | (t, act) :: rest =>
          if isPast t deadline || l.horizon < t then l.giveUp deadline
          else await ready deadline ({ l with now := t, timeline := rest }.perform act)
termination_by l.timeline.length
decreasing_by
  rw [timeline_perform, ‹l.timeline = _›]
  simp

/-! ## Reading and writing -/

/-- How the stream says that a read failed. -/
def resetMessage : String := "reset by script"

/-- How the stream says that a write failed. -/
def brokenMessage : String := "broken by script"

/-- The most bytes that one read gives. -/
def readSize : Nat := 4096

/-- What a read gives. -/
inductive Arrival where
  | bytes (bs : Bytes)
  | eof
  | reset
deriving DecidableEq

/-- Reads what has arrived, if anything has. -/
def arrival? (l : Link) : Option Arrival :=
  if l.inbox.isEmpty then
    match l.tail with
    | .quiet => none
    | .eof => some .eof
    | .reset => some .reset
  else some (.bytes (l.inbox.take readSize))

/-- What waiting for bytes comes to. -/
inductive Received where
  | arrived (a : Arrival)
  /-- Something else happened that ends the waiting. -/
  | interrupted
  | timeout
  | stuck
deriving DecidableEq

/-- What a read gives, unless `interrupt` holds. -/
def arrivalOr (interrupt : Link → Bool) (l : Link) : Option (Option Arrival) :=
  if interrupt l then some none else l.arrival?.map some

/-- Waits for bytes and reads them, until `interrupt` holds. -/
def receive (l : Link) (deadline : Option Nat) (interrupt : Link → Bool) : Received × Link :=
  match l.await (arrivalOr interrupt) deadline with
  | (.ready (some a), l) =>
      (.arrived a, match a with
        | .bytes bs => { l with inbox := l.inbox.drop bs.length }
        | _ => l)
  | (.ready none, l) => (.interrupted, l)
  | (.timeout, l) => (.timeout, l)
  | (.stuck, l) => (.stuck, l)

/-- Writes byte strings until one fails. -/
def writeAll (l : Link) (bss : List Bytes) : Sink.Result × Link :=
  let (r, sink) := l.sink.writeAll bss
  (r, { l with sink })

/-- Closes the server's side of the stream. -/
def shutStream (l : Link) : Link := { l with sink := l.sink.shutdown }

/-- Moves the horizon: waiting goes on for a whole day again. -/
def renew (l : Link) : Link := { l with horizon := l.now + patienceSpan }

/-! ## What is left to read -/

/-- The bytes that an act brings. -/
def Act.size : Act → Nat
  | .bytes bs => bs.length
  | _ => 0

/-- The number of bytes not read yet, those under way included. -/
def supply (l : Link) : Nat :=
  l.inbox.length + l.timeline.foldr (fun e n => Act.size e.2 + n) 0

theorem supply_perform (l : Link) (a : Act) :
    (l.perform a).supply = l.supply + Act.size a := by
  cases a <;> simp [perform, supply, Act.size, onSock, log]
  omega

theorem supply_giveUp (l : Link) (d : Option Nat) {α : Type} :
    (l.giveUp d (α := α)).2.supply = l.supply := by
  unfold giveUp
  split
  · split <;> rfl
  · rfl

/-- Waiting loses no byte. -/
theorem supply_await {α : Type} (ready : Link → Option α) (d : Option Nat) (l : Link) :
    (l.await ready d).2.supply = l.supply := by
  fun_induction await ready d l with
  | case1 => rfl
  | case2 l _ h => exact supply_giveUp l d
  | case3 l _ t act rest h _ => exact supply_giveUp l d
  | case4 l _ t act rest h _ ih =>
      rw [ih, supply_perform]
      simp [supply, h]
      omega

theorem await_ready {α : Type} {ready : Link → Option α} {d : Option Nat} {l l' : Link} {a : α}
    (h : l.await ready d = (.ready a, l')) : ready l' = some a := by
  fun_induction await ready d l with
  | case1 l b hb =>
      obtain ⟨h1, rfl⟩ := Prod.mk.injEq .. ▸ h
      injection h1 with h1
      rw [hb, h1]
  | case2 l _ _ =>
      unfold giveUp at h
      split at h
      · split at h <;> simp at h
      · simp at h
  | case3 l _ t act rest _ _ =>
      unfold giveUp at h
      split at h
      · split at h <;> simp at h
      · simp at h
  | case4 l _ t act rest _ _ ih => exact ih h

/-- Reading bytes takes them from the supply. -/
theorem supply_receive {l l' : Link} {d : Option Nat} {i : Link → Bool} {bs : Bytes}
    (h : l.receive d i = (.arrived (.bytes bs), l')) :
    bs ≠ [] ∧ l'.supply + bs.length = l.supply := by
  unfold receive at h
  split at h
  · next a m hm =>
      obtain ⟨h1, h2⟩ := Prod.mk.injEq .. ▸ h
      injection h1 with h1
      subst h1
      have hs := supply_await (arrivalOr i) d l
      rw [hm] at hs
      have hr := await_ready hm
      unfold arrivalOr at hr
      split at hr
      · simp at hr
      · simp only [Option.map_eq_some_iff, Option.some.injEq, exists_eq_right] at hr
        unfold arrival? at hr
        split at hr
        · split at hr <;> simp at hr
        · next hne =>
            simp only [Option.some.injEq, Arrival.bytes.injEq] at hr
            subst h2
            rw [← hs]
            have hlen : bs.length ≤ m.inbox.length := by
              rw [← hr, List.length_take]
              omega
            refine ⟨?_, by simp only [supply, List.length_drop]; omega⟩
            rintro rfl
            have : m.inbox = [] := by
              have := congrArg List.length hr
              simp only [readSize, List.length_take, List.length_nil] at this
              exact List.length_eq_zero_iff.1 (by omega)
            simp [this] at hne
  · simp at h
  · simp at h
  · simp at h

end Link

end WebServer
