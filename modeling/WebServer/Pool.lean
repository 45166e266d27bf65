/-!
# WebServer.Pool

A bounded pool of workers for request cycles. The first `core` tasks each start
a worker; later ones go to an idle worker or wait in a bounded queue, and only a
full queue starts extra workers, up to `max`. When the queue is full and every
worker is taken, a task is rejected and handed back. Extra workers retire when
they have been idle for `keepAlive`.

Tasks and workers are numbers. This module has the single steps, each of which
takes the pool's lock once:

| step      | what happens                                                   |
|-----------|----------------------------------------------------------------|
| `offer`   | a task is submitted: it starts a worker, waits, or is rejected |
| `finish`  | a worker is done with its task                                 |
| `seek`    | a worker without a task takes one, parks, or leaves            |
| `notifyOne`, `notifyAll` | parked workers are woken                        |
| `expire`  | a parked extra worker has been idle for too long               |
| `close`   | no more tasks are taken                                        |
-/

namespace WebServer

/-- The sizes of a pool. -/
structure PoolConfig where
  /-- Workers that tasks start before any of them waits. -/
  core : Nat
  /-- The most workers. -/
  max : Nat
  /-- The most tasks that wait. -/
  queue : Nat
  /-- How long an extra worker may be idle, in milliseconds. -/
  keepAlive : Nat
deriving DecidableEq, Inhabited

/-- What a worker is doing. -/
inductive Activity where
  | running (task : Nat)
  /-- About to look for a task. -/
  | seeking
  /-- Waiting to be woken; an extra worker until the deadline. -/
  | parked (deadline : Option Nat)
deriving DecidableEq

namespace Activity

/-- Whether a worker waits to be woken. -/
def isParked : Activity → Bool
  | .parked _ => true
  | _ => false

/-- The task that a worker holds. -/
def task? : Activity → Option Nat
  | .running t => some t
  | _ => none

end Activity

/-- The state of a pool. -/
structure Pool where
  config : PoolConfig
  /-- The tasks that wait, in order. -/
  queue : List Nat := []
  /-- The number of workers. -/
  workers : Nat := 0
  /-- The number of workers that hold a task. -/
  busy : Nat := 0
  /-- The workers by number; those that are parked in the order in which they
  parked. -/
  crew : List (Nat × Activity) := []
  /-- The number of workers ever started. -/
  hired : Nat := 0
  /-- A wake-up that found nobody and waits for the next worker to seek. -/
  permit : Bool := false
  isShut : Bool := false
  /-- The tasks that have run, latest first. -/
  finished : List Nat := []
deriving DecidableEq, Inhabited

namespace Pool

/-- What becomes of a submitted task. -/
inductive Admission where
  /-- It started a worker. -/
  | started (worker : Nat)
  | queued
  /-- It is handed back. -/
  | rejected
deriving DecidableEq

/-- The wording of a rejection. -/
def rejectedMessage : String := "worker pool saturated, task rejected"

/-- What a worker is doing. -/
def activity? (p : Pool) (w : Nat) : Option Activity := (p.crew.find? (·.1 == w)).map (·.2)

/-- Sets what a worker is doing, and keeps its place. -/
def setActivity (p : Pool) (w : Nat) (a : Activity) : Pool :=
  { p with crew := p.crew.map fun e => if e.1 = w then (w, a) else e }

/-- The crew without a worker. -/
def without (p : Pool) (w : Nat) : List (Nat × Activity) := p.crew.filter (·.1 != w)

/-- Starts a worker with a task. -/
def start (p : Pool) (t : Nat) : Pool :=
  { p with
    workers := p.workers + 1
    busy := p.busy + 1
    crew := p.crew ++ [(p.hired, .running t)]
    hired := p.hired + 1 }

/-- Takes a submitted task, or rejects it. -/
def offer (p : Pool) (t : Nat) : Admission × Pool :=
  if p.isShut then (.rejected, p)
  else if p.workers < p.config.core then (.started p.hired, p.start t)
  else if p.queue.length < p.workers - p.busy || p.queue.length < p.config.queue then
    (.queued, { p with queue := p.queue ++ [t] })
  else if p.workers < p.config.max then (.started p.hired, p.start t)
  else (.rejected, p)

/-- Wakes the worker that has been parked for longest; with nobody parked the
wake-up is kept. -/
def notifyOne (p : Pool) : Option Nat × Pool :=
  match p.crew.find? (·.2.isParked) with
  | some (w, _) => (some w, p.setActivity w .seeking)
  | none => (none, { p with permit := true })

/-- Wakes all parked workers. -/
def notifyAll (p : Pool) : List Nat × Pool :=
  ((p.crew.filter (·.2.isParked)).map (·.1),
    { p with crew := p.crew.map fun e => if e.2.isParked then (e.1, .seeking) else e })

/-- A worker is done with its task, normally or by a panic. -/
def finish (p : Pool) (w : Nat) : Pool :=
  match p.activity? w with
  | some (.running t) =>
      { p.setActivity w .seeking with busy := p.busy - 1, finished := t :: p.finished }
  | _ => p

/-- A worker without a task takes the next one. With none there it leaves when
the pool is closed, and otherwise parks; a kept wake-up makes it look again. -/
def seek (p : Pool) (w : Nat) (now : Nat) : Pool :=
  match p.activity? w with
  | some .seeking =>
      match p.queue with
      | t :: rest =>
          { p.setActivity w (.running t) with
            queue := rest, busy := p.busy + 1, permit := false }
      | [] =>
          if p.isShut then { p with crew := p.without w, workers := p.workers - 1, permit := false }
          else if p.permit then { p with permit := false }
          else
            let deadline :=
              if p.config.core < p.workers then some (now + p.config.keepAlive) else none
            { p with crew := p.without w ++ [(w, .parked deadline)] }
  | _ => p

/-- A parked worker has been idle for too long: it retires if it is an extra one
and no task waits, and otherwise looks again. -/
def expire (p : Pool) (w : Nat) : Pool :=
  match p.activity? w with
  | some (.parked (some _)) =>
      if p.queue.isEmpty && p.config.core < p.workers then
        { p with crew := p.without w, workers := p.workers - 1 }
      else p.setActivity w .seeking
  | _ => p

/-- Takes no more tasks. Those that wait still run. -/
def close (p : Pool) : Pool := { p with isShut := true }

/-- Whether no task waits or runs. -/
def isDrained (p : Pool) : Bool := p.busy = 0 && p.queue.isEmpty

/-- Whether a worker holds a task. -/
def isRunning (p : Pool) (t : Nat) : Bool := p.crew.any (·.2.task? == some t)

end Pool

end WebServer
