import WebServer.Proofs.Pool.Step

/-!
# WebServer.Proofs.Pool.Occupancy

How many workers a pool has, how many of them are busy, and how many tasks wait. A task waits
only for a worker that is free to take it or in a place of the queue; so what bounds the queue
is the larger of the two, and both change with every worker that takes a task.

Main statement: no count leaves its bounds, whatever happens (`run_within_bounds`).
-/

namespace WebServer

namespace Pool

variable {p p' : Pool} {w t : Nat} {a : Activity} {o : Option Nat}
  {adm : Admission} {m : Move}

/-! ## Counts -/

/-- The pool has workers and waiting tasks within the bounds of its sizes. -/
structure Within (p : Pool) : Prop where
  workers : p.workers ≤ max p.config.core p.config.max
  queue : p.queue.length ≤ max p.config.queue (p.workers - p.busy)

theorem Staffed.busy_eq (hp : p.Staffed) : p.busy = p.crew.countP (·.2.task?.isSome) := by
  rw [hp.busy, running, List.length_filterMap_eq_countP, roll, rollOf, List.countP_map]
  rfl

theorem Staffed.workers_eq (hp : p.Staffed) : p.workers = p.crew.length := by
  rw [hp.workers, roll, rollOf, List.length_map]

theorem Staffed.busy_le_workers (hp : p.Staffed) : p.busy ≤ p.workers := by
  rw [hp.busy_eq, hp.workers_eq]
  exact List.countP_le_length

/-- A worker that holds a task is counted. -/
theorem Staffed.busy_pos (hp : p.Staffed) (h : p.activity? w = some (.running t)) : 0 < p.busy := by
  rw [hp.busy_eq]
  exact List.countP_pos_iff.2 ⟨_, mem_of_activity? h, rfl⟩

theorem Staffed.workers_pos (hp : p.Staffed) (h : p.activity? w = some a) : 0 < p.workers := by
  rw [hp.workers_eq]
  exact List.length_pos_of_mem (mem_of_activity? h)

/-! ## One step -/

theorem Submits.within (h : Submits p t adm p') (hp : p.Within) : p'.Within := by
  obtain ⟨hworkers, hqueue⟩ := hp
  cases h with
  | reject => exact ⟨hworkers, hqueue⟩
  | hire _ hroom =>
      refine ⟨?_, ?_⟩
      · show p.workers + 1 ≤ max p.config.core p.config.max
        omega
      · show p.queue.length ≤ max p.config.queue (p.workers + 1 - (p.busy + 1))
        rwa [Nat.add_sub_add_right]
  | enqueue _ _ hroom =>
      refine ⟨hworkers, ?_⟩
      rw [List.length_append, List.length_singleton]
      show p.queue.length + 1 ≤ max p.config.queue (p.workers - p.busy)
      omega

theorem Works.within (h : Works p o p') (hp : p.Within) : p'.Within := by
  obtain ⟨hworkers, hqueue⟩ := hp
  cases h with
  | rest => exact ⟨hworkers, hqueue⟩
  | @take w t queue _ _ _ hfirst _ _ =>
      refine ⟨hworkers, ?_⟩
      -- One task fewer waits, and one worker fewer is free to take it.
      rw [hfirst, List.length_cons] at hqueue
      show queue.length ≤ max p.config.queue (p.workers - (p.busy + 1))
      omega
  | finish =>
      refine ⟨hworkers, ?_⟩
      show p.queue.length ≤ max p.config.queue (p.workers - (p.busy - 1))
      omega
  | leave hempty =>
      refine ⟨Nat.le_trans (Nat.sub_le _ _) hworkers, ?_⟩
      show p.queue.length ≤ _
      rw [hempty]
      exact Nat.zero_le _

theorem Staffed.within_step (hp : p.Staffed) (h : p.Within) (m : Move) :
    (p.step m).Within := by
  rcases hp.step_cases m with ⟨_, _, hsubmits⟩ | ⟨_, hworks⟩
  · exact hsubmits.within h
  · exact hworks.within h

/-- Nobody leaves by a submission. -/
theorem Submits.workers_le (h : Submits p t adm p') : p.workers ≤ p'.workers := by
  cases h with
  | reject | enqueue => exact Nat.le_refl _
  | hire => exact Nat.le_succ _

/-- While the pool is open, only extra workers leave. -/
theorem Works.core_le_of_lt (h : Works p o p') (hopen : p.isShut = false)
    (hfewer : p'.workers < p.workers) : p.config.core ≤ p'.workers := by
  cases h with
  | rest | take | finish => exact absurd hfewer (Nat.lt_irrefl _)
  | leave _ hextra _ =>
      rcases hextra with hshut | hextra
      · rw [hopen] at hshut
        cases hshut
      · exact Nat.le_sub_one_of_lt hextra

theorem Staffed.core_le_of_lt (hp : p.Staffed) (hopen : p.isShut = false)
    (hfewer : (p.step m).workers < p.workers) : p.config.core ≤ (p.step m).workers := by
  rcases hp.step_cases m with ⟨_, _, hsubmits⟩ | ⟨_, hworks⟩
  · exact absurd hfewer (Nat.not_lt.2 hsubmits.workers_le)
  · exact hworks.core_le_of_lt hopen hfewer

/-! ## Whole runs -/

theorem within_new (config : PoolConfig) : Within { config } :=
  ⟨Nat.zero_le _, Nat.zero_le _⟩

/-- No count leaves its bounds, whatever has happened to the pool so far: the busy workers are
those that hold a task, nothing below zero is counted, there are no more workers and no more
waiting tasks than allowed, and while the pool is open no worker of the core leaves. -/
theorem run_within_bounds (config : PoolConfig) (ms : List Move) :
    let p := Pool.run { config } ms
    p.busy = p.crew.countP (·.2.task?.isSome) ∧
      p.workers = p.crew.length ∧
      p.busy ≤ p.workers ∧
      (∀ w t, p.activity? w = some (.running t) → 0 < p.busy) ∧
      (∀ w a, p.activity? w = some a → 0 < p.workers) ∧
      p.workers ≤ max config.core config.max ∧
      p.queue.length ≤ max config.queue (p.workers - p.busy) ∧
      ∀ m, p.isShut = false → (p.step m).workers < p.workers →
        config.core ≤ (p.step m).workers := by
  intro p
  have hp : p.Staffed := (staffed_new config).run ms
  have hconfig : p.config = config := (staffed_new config).config_run ms
  have hwithin : p.Within :=
    (staffed_new config).run_induction (within_new config) (fun _ m hp h => hp.within_step h m) ms
  rw [← hconfig]
  exact ⟨hp.busy_eq, hp.workers_eq, hp.busy_le_workers, fun _ _ => hp.busy_pos,
    fun _ _ => hp.workers_pos, hwithin.workers, hwithin.queue, fun _ => hp.core_le_of_lt⟩

/-- One worker runs a task and an extra one is idle: the extra one retires, and the core
stays. -/
theorem run_within_bounds_of_retiring :
    let config : PoolConfig := { core := 1, max := 2, queue := 1, keepAlive := 1000 }
    let p := Pool.run { config }
      [.submit 0, .submit 1, .submit 2, .finish 1, .seek 1 0, .finish 1, .seek 1 0]
    p.busy = 1 ∧ p.workers = 2 ∧ 0 < p.busy ∧ 0 < p.workers ∧
      (p.step (.expire 1)).workers = 1 ∧ config.core ≤ (p.step (.expire 1)).workers := by
  intro config p
  obtain ⟨-, -, -, hbusy, hworkers, -, -, hretire⟩ := run_within_bounds config
    [.submit 0, .submit 1, .submit 2, .finish 1, .seek 1 0, .finish 1, .seek 1 0]
  exact ⟨by decide, by decide, hbusy 0 0 (by decide), hworkers 1 (.parked (some 1000)) (by decide),
    by decide, hretire (.expire 1) (by decide) (by decide)⟩

end Pool

end WebServer
