import WebServer.Pool

/-!
# WebServer.Pool.Schedule

A pool at work: its workers run one after the other, in the order in which they
became able to, until each of them waits for something. Time passes only when it
is told to, from one instant at which something is due to the next.
-/

namespace WebServer

/-- What a task does. -/
inductive TaskKind where
  /-- Waits until it is released. -/
  | gated
  | instant
  /-- Takes its time, in milliseconds. -/
  | sleep (ms : Nat)
  | panic
deriving DecidableEq, Inhabited

/-- A submitted task. -/
structure Job where
  label : String
  kind : TaskKind
  released : Bool := false
deriving DecidableEq, Inhabited

/-- Something due at an instant. -/
inductive Alarm where
  /-- A worker's task has slept enough. -/
  | wakeTask (worker : Nat)
  /-- A parked worker has been idle for too long. -/
  | idle (worker : Nat)
deriving DecidableEq

/-- A pool at work. Tasks are numbered in the order of submission. -/
structure Schedule where
  pool : Pool
  jobs : List Job := []
  now : Nat := 0
  /-- What is due, and when, in the order in which it was set. -/
  alarms : List (Nat × Alarm) := []
  /-- Workers that can go on, in the order in which they became able to. -/
  ready : List Nat := []
  /-- The workers whose tasks have slept enough. -/
  rested : List Nat := []
  /-- The tasks that were handed back and not run since, one for each label. -/
  handedBack : List Nat := []
  /-- The labels of the tasks that have run to their end, latest first. -/
  done : List String := []
deriving DecidableEq, Inhabited

namespace Schedule

/-- A pool with nothing to do. -/
def ofConfig (config : PoolConfig) : Schedule := { pool := { config } }

/-- The task of a number. -/
def job (s : Schedule) (t : Nat) : Job := s.jobs.getD t ⟨"", .instant, false⟩

/-- Sets an alarm. -/
def setAlarm (s : Schedule) (due : Nat) (a : Alarm) : Schedule :=
  { s with alarms := s.alarms ++ [(due, a)] }

/-- Takes the first worker off the list of those that can go on. -/
def block (s : Schedule) : Schedule := { s with ready := s.ready.drop 1 }

/-! ## Running workers -/

/-- What a running task comes to. -/
inductive Progress where
  | ended
  | panicked
  /-- It waits; for so many milliseconds, or for its release. -/
  | waits (ms : Option Nat)

/-- How far a task gets. -/
def progress (s : Schedule) (w t : Nat) : Progress :=
  match (s.job t).kind with
  | .instant => .ended
  | .panic => .panicked
  | .gated => if (s.job t).released then .ended else .waits none
  | .sleep ms => if ms = 0 || s.rested.contains w then .ended else .waits (some ms)

/-- Lets a worker take one step. -/
def stepWorker (s : Schedule) (w : Nat) : Schedule :=
  match s.pool.activity? w with
  | none => s.block
  | some (.parked _) => s.block
  | some (.running t) =>
      match s.progress w t with
      | .ended =>
          { s with
            pool := s.pool.finish w
            rested := s.rested.filter (· ≠ w)
            done := (s.job t).label :: s.done }
      | .panicked => { s with pool := s.pool.finish w }
      | .waits none => s.block
      | .waits (some ms) => s.block.setAlarm (s.now + ms) (.wakeTask w)
  | some .seeking =>
      let s := { s with pool := s.pool.seek w s.now }
      match s.pool.activity? w with
      | none => s.block
      | some (.parked none) => s.block
      | some (.parked (some d)) =>
          if d ≤ s.now then { s with pool := s.pool.expire w } else s.block.setAlarm d (.idle w)
      | some _ => s

/-- Lets the workers that can go on take at most `n` steps. -/
def run : Nat → Schedule → Schedule
  | 0, s => s
  | n + 1, s =>
      match s.ready with
      | [] => s
      | w :: _ => run n (s.stepWorker w)

/-- Lets the workers go on until each waits. A task takes a worker two steps, and
a worker without one three at most. -/
def settle (s : Schedule) : Schedule :=
  run (4 * (s.ready.length + s.pool.queue.length + s.pool.crew.length) + 8) s

/-! ## What is done to the pool -/

/-- Woken workers can go on, and are no longer about to retire. -/
def wake (s : Schedule) (ws : List Nat) : Schedule :=
  { s with
    ready := s.ready ++ ws
    alarms := s.alarms.filter fun e =>
      match e.2 with
      | .idle w => !ws.contains w
      | .wakeTask _ => true }

/-- Submits a task. -/
def submit (s : Schedule) (label : String) (kind : TaskKind) : Pool.Admission × Schedule :=
  let t := s.jobs.length
  let s := { s with jobs := s.jobs ++ [Job.mk label kind false] }
  match s.pool.offer t with
  | (.started w, pool) => (.started w, settle { s with pool, ready := s.ready ++ [w] })
  | (.queued, pool) =>
      let (w, pool) := pool.notifyOne
      (.queued, settle ({ s with pool }.wake w.toList))
  | (.rejected, pool) =>
      let others := s.handedBack.filter fun u => (s.job u).label ≠ label
      (.rejected, { s with pool, handedBack := t :: others })

/-- Submits `n` tasks that never end. -/
def occupy (s : Schedule) : Nat → Schedule
  | 0 => s
  | n + 1 => (s.submit "" .gated).2.occupy n

/-- The latest task of a label among the first `n`. -/
def latest? (s : Schedule) (label : String) : Nat → Option Nat
  | 0 => none
  | n + 1 => if (s.job n).label = label then some n else latest? s label n

/-- Releases the latest task of a label; tells whether there is one. Only a task
that waits for its release takes notice. -/
def release (s : Schedule) (label : String) : Bool × Schedule :=
  match s.latest? label s.jobs.length with
  | none => (false, s)
  | some t =>
      let holders :=
        if (s.job t).kind = .gated then (s.pool.crew.filter (·.2.task? == some t)).map (·.1)
        else []
      let s := { s with
        jobs := s.jobs.modify t fun j => { j with released := true }
        ready := s.ready ++ holders }
      (true, s.settle)

/-- Closes the pool. -/
def shutdown (s : Schedule) : Schedule :=
  let (ws, pool) := s.pool.close.notifyAll
  settle ({ s with pool }.wake ws)

/-! ## Time -/

/-- The next instant at which something is due. -/
def nextAlarm? (s : Schedule) : Option Nat := (s.alarms.map (·.1)).min?

/-- Something is due. -/
def fire (s : Schedule) : Alarm → Schedule
  | .wakeTask w => { s with rested := w :: s.rested, ready := s.ready ++ [w] }
  | .idle w =>
      let pool := s.pool.expire w
      { s with pool, ready := if (pool.activity? w).isSome then s.ready ++ [w] else s.ready }

/-- Lets everything happen that is due at the instant `t`. -/
def fireAt (s : Schedule) (t : Nat) : Schedule :=
  let due := s.alarms.filter (·.1 = t)
  let s := { s with now := t, alarms := s.alarms.filter (·.1 ≠ t) }
  (due.foldl (fun s e => s.fire e.2) s).settle

/-- Lets time pass through at most `n` instants before `t`, or until `stop`
holds. -/
def passUntil (stop : Schedule → Bool) (t : Nat) : Nat → Schedule → Schedule
  | 0, s => s
  | n + 1, s =>
      if stop s then s
      else
        match s.nextAlarm? with
        | none => s
        | some d => if d < t then passUntil stop t n (s.fireAt d) else s

/-- A bound on the instants at which something is due: each alarm is one, and a
task can set one more for itself and one for its worker. -/
def alarmBound (s : Schedule) : Nat :=
  s.alarms.length + 3 * (s.pool.queue.length + s.pool.crew.length) + 4

/-- Lets time pass up to the instant `t`, what is due then included. -/
def advanceTo (s : Schedule) (t : Nat) : Schedule :=
  { passUntil (fun _ => false) (t + 1) s.alarmBound s with now := max s.now t }

/-- Runs a task that was handed back, outside the pool; tells whether there is
one. A task that sleeps lets time pass, and at the instant at which it wakes it
comes before everything else that is due. -/
def runHandedBack (s : Schedule) (label : String) : Bool × Schedule :=
  match s.handedBack.find? fun t => (s.job t).label = label with
  | none => (false, s)
  | some t =>
      let s := { s with handedBack := s.handedBack.filter (· ≠ t) }
      let ended (s : Schedule) : Schedule := { s with done := label :: s.done }
      match (s.job t).kind with
      | .panic => (true, s)
      | .sleep ms =>
          let due := s.now + ms
          let s := passUntil (fun _ => false) due s.alarmBound s
          (true, (ended s).fireAt due)
      | .gated | .instant => (true, ended s)

/-- Lets time pass. -/
def advance (s : Schedule) (ms : Nat) : Schedule := s.advanceTo (s.now + ms)

/-- Lets time pass until no task waits or runs; gives up when `ms` have passed.
Tells whether it came to that. -/
def drain (s : Schedule) (ms : Nat) : Bool × Schedule :=
  let s' := passUntil (·.pool.isDrained) (s.now + ms) s.alarmBound s
  if s'.pool.isDrained then (true, s') else (false, s'.advanceTo (s.now + ms))

end Schedule

end WebServer
