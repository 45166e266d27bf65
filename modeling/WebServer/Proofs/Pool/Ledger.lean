import WebServer.Proofs.Pool.Step

/-!
# WebServer.Proofs.Pool.Ledger

What becomes of submitted tasks. A ledger is kept beside the pool: which submissions were
accepted and which handed back, which tasks had to wait, and which of those were begun.

Main statement: the pool neither loses nor duplicates a task, and begins those that wait in
their order (`run_conserves_tasks`).
-/

namespace WebServer

namespace Pool

variable {p p' : Pool} {w t : Nat} {o : Option Nat} {adm : Admission} {m : Move}

/-! ## One step -/

/-- A task among those that are run may as well stand in front of all. -/
theorem tasks_perm_cons {running rest : List Nat} (h : running.Perm (t :: rest))
    (queue finished : List Nat) :
    (queue ++ running ++ finished).Perm (t :: (queue ++ rest ++ finished)) :=
  ((h.append_left queue).trans List.perm_middle).append_right finished

/-- Work moves tasks, and neither adds nor drops one. -/
theorem Works.tasks_perm (h : Works p o p') : p'.tasks.Perm p.tasks := by
  cases h with
  | rest hroll _ => exact ((hroll.filterMap _).append_left _).append_right _
  | leave _ _ hroll => exact ((running_perm_of_none hroll).symm.append_left _).append_right _
  | take hqueue hroll hroll' =>
      have hidle := running_perm_of_none hroll
      refine (tasks_perm_cons (hroll'.filterMap _) _ _).trans ?_
      rw [tasks, hqueue]
      exact ((hidle.symm.append_left _).append_right _).cons _
  | finish hroll hroll' =>
      -- The task leaves the middle of the list for the front of the finished ones.
      have hrunning := running_perm_of_some hroll
      refine List.perm_middle.trans (.trans ?_ (tasks_perm_cons hrunning _ _).symm)
      exact (((hroll'.filterMap _).append_left _).append_right _).cons _

/-- Work begins tasks from the front of the queue. -/
theorem Works.queue_eq (h : Works p o p') : p.queue = o.toList ++ p'.queue := by
  cases h with
  | take hqueue _ _ => exact hqueue
  | rest | finish | leave => rfl

theorem Submits.eq_of_rejected (h : Submits p t .rejected p') : p' = p := by
  cases h
  rfl

/-- When no task waits and no worker is counted busy, all of the pool's tasks have run. -/
theorem Staffed.tasks_of_isDrained (hp : p.Staffed) (h : p.isDrained = true) :
    p.tasks = p.finished := by
  simp only [isDrained, Bool.and_eq_true, decide_eq_true_eq, List.isEmpty_iff] at h
  have hrunning : p.running = [] := List.length_eq_zero_iff.1 (hp.busy.symm.trans h.1)
  rw [tasks, h.2, hrunning, List.append_nil, List.nil_append]

/-! ## The ledger -/

/-- A pool, and what has become of the tasks submitted to it. -/
structure Ledger where
  pool : Pool
  /-- The tasks that were accepted, in order. -/
  accepted : List Nat := []
  /-- The tasks that were handed back. -/
  handedBack : List Nat := []
  /-- The tasks that had to wait, in order. -/
  queued : List Nat := []
  /-- The tasks that workers began after they had waited, in order. -/
  begun : List Nat := []
  /-- How many queued submissions have not made their wake-up yet. -/
  owed : Nat := 0

namespace Ledger

/-- The ledger after a submission that has left the pool in the given state. -/
def enterSubmission (l : Ledger) (t : Nat) (adm : Admission) (pool : Pool) : Ledger :=
  match adm with
  | .started _ => { l with pool, accepted := l.accepted ++ [t] }
  | .queued =>
      { l with
        pool
        accepted := l.accepted ++ [t]
        queued := l.queued ++ [t]
        owed := l.owed + 1 }
  | .rejected => { l with pool, handedBack := l.handedBack ++ [t] }

/-- The ledger after a move. -/
def enter (l : Ledger) (m : Move) : Ledger :=
  match m with
  | .submit t => l.enterSubmission t (l.pool.offer t).1 (l.pool.offer t).2
  | m =>
      { l with
        pool := l.pool.step m
        begun := l.begun ++ (m.begun? l.pool).toList
        owed := if m = .wakeOne then l.owed - 1 else l.owed }

/-- The ledger of a new pool after some moves. -/
def run (config : PoolConfig) (ms : List Move) : Ledger :=
  ms.foldl enter { pool := { config } }

/-- The tasks that are submitted in some moves. -/
def submitted (ms : List Move) : List Nat :=
  ms.filterMap fun
    | .submit t => some t
    | _ => none

/-- The ledger agrees with the pool. -/
structure Balanced (l : Ledger) : Prop where
  staffed : l.pool.Staffed
  accepted : l.accepted.Perm l.pool.tasks
  queued : l.queued = l.begun ++ l.pool.queue

variable {l : Ledger}

theorem enter_of_work (l : Ledger) (hm : ∀ t, m ≠ .submit t) :
    l.enter m =
      { l with
        pool := l.pool.step m
        begun := l.begun ++ (m.begun? l.pool).toList
        owed := if m = .wakeOne then l.owed - 1 else l.owed } := by
  cases m with
  | submit t => exact absurd rfl (hm t)
  | wakeOne | wakeAll | wake | finish | seek | expire | close => rfl

theorem pool_enterSubmission (l : Ledger) (t : Nat) (adm : Admission) (pool : Pool) :
    (l.enterSubmission t adm pool).pool = pool := by
  cases adm <;> rfl

theorem pool_enter (l : Ledger) (m : Move) : (l.enter m).pool = l.pool.step m := by
  cases m with
  | submit t => exact l.pool_enterSubmission t _ _
  | wakeOne | wakeAll | wake | finish | seek | expire | close => rfl

theorem pool_run (config : PoolConfig) (ms : List Move) :
    (run config ms).pool = Pool.run { config } ms :=
  (List.foldl_hom pool fun l m => (l.pool_enter m).symm).symm

/-- A task is accepted as one more of the pool's tasks, behind all that wait. -/
theorem Balanced.enterSubmission (hl : l.Balanced) {pool : Pool} (h : Submits l.pool t adm pool) :
    (l.enterSubmission t adm pool).Balanced := by
  have hstaffed := h.staffed hl.staffed
  have haccepted : (l.accepted ++ [t]).Perm (t :: l.pool.tasks) :=
    (List.perm_append_singleton _ _).trans (hl.accepted.cons t)
  cases h with
  | reject => exact ⟨hl.staffed, hl.accepted, hl.queued⟩
  | hire =>
      have hrunning : (l.pool.start t).running.Perm (t :: l.pool.running) := by
        rw [running_start]
        exact List.perm_append_singleton _ _
      exact ⟨hstaffed, haccepted.trans (tasks_perm_cons hrunning _ _).symm, hl.queued⟩
  | enqueue =>
      refine ⟨hstaffed, haccepted.trans ?_, ?_⟩
      · exact (((List.perm_append_singleton _ _).append_right _).append_right _).symm
      · show l.queued ++ [t] = l.begun ++ (l.pool.queue ++ [t])
        rw [hl.queued, List.append_assoc]

theorem Balanced.enter (hl : l.Balanced) (m : Move) : (l.enter m).Balanced := by
  rcases hl.staffed.step_cases m with ⟨t, rfl, hsubmits⟩ | ⟨hm, hworks⟩
  · exact hl.enterSubmission hsubmits
  · rw [enter_of_work l hm]
    refine ⟨hworks.staffed hl.staffed, hl.accepted.trans hworks.tasks_perm.symm, ?_⟩
    show l.queued = l.begun ++ (m.begun? l.pool).toList ++ (l.pool.step m).queue
    rw [hl.queued, hworks.queue_eq, List.append_assoc]

theorem balanced_new (config : PoolConfig) : Balanced { pool := { config } } :=
  ⟨staffed_new config, .refl _, rfl⟩

/-- A submitted task is accepted or handed back. -/
theorem enterSubmission_perm (l : Ledger) (t : Nat) (adm : Admission) (pool : Pool) :
    ((l.enterSubmission t adm pool).accepted ++ (l.enterSubmission t adm pool).handedBack).Perm
      (t :: (l.accepted ++ l.handedBack)) := by
  cases adm with
  | rejected =>
      show (l.accepted ++ (l.handedBack ++ [t])).Perm _
      rw [← List.append_assoc]
      exact List.perm_append_singleton _ _
  | started | queued =>
      show (l.accepted ++ [t] ++ l.handedBack).Perm _
      rw [List.append_assoc]
      exact List.perm_middle

theorem enter_perm (l : Ledger) (m : Move) :
    ((l.enter m).accepted ++ (l.enter m).handedBack).Perm
      (submitted [m] ++ (l.accepted ++ l.handedBack)) := by
  cases m with
  | submit t => exact l.enterSubmission_perm t _ _
  | wakeOne | wakeAll | wake | finish | seek | expire | close => exact .refl _

/-! ## Whole runs -/

/-- What every entry keeps, a ledger keeps. -/
theorem run_induction {P : Ledger → Prop} (config : PoolConfig) (h : P { pool := { config } })
    (hstep : ∀ l m, l.Balanced → P l → P (l.enter m)) (ms : List Move) : P (run config ms) := by
  -- The ledger of a new pool is generalised to any that agrees with its pool.
  have hfoldl : ∀ l : Ledger, l.Balanced → P l → P (ms.foldl enter l) := by
    induction ms with
    | nil => exact fun l _ h => h
    | cons m ms ih => exact fun l hl h => ih _ (hl.enter m) (hstep l m hl h)
  exact hfoldl _ (balanced_new config) h

theorem balanced_run (config : PoolConfig) (ms : List Move) : (run config ms).Balanced :=
  run_induction config (balanced_new config) (fun _ m hl _ => hl.enter m) ms

theorem foldl_enter_perm (l : Ledger) (ms : List Move) :
    ((ms.foldl enter l).accepted ++ (ms.foldl enter l).handedBack).Perm
      (submitted ms ++ (l.accepted ++ l.handedBack)) := by
  induction ms generalizing l with
  | nil => exact .refl _
  | cons m ms ih =>
      have hsubmitted : submitted (m :: ms) = submitted [m] ++ submitted ms :=
        List.filterMap_append (l := [m])
      rw [hsubmitted, List.append_assoc]
      refine (ih (l.enter m)).trans (((l.enter_perm m).append_left _).trans ?_)
      exact List.perm_append_comm_assoc _ _ _

theorem submitted_perm_run (config : PoolConfig) (ms : List Move) :
    (submitted ms).Perm ((run config ms).accepted ++ (run config ms).handedBack) := by
  have h := foldl_enter_perm { pool := { config } } ms
  rw [List.append_nil, List.append_nil] at h
  exact h.symm

/-- The pool neither loses nor duplicates a task. Whatever has happened to it so far, in
whatever order:

1. the accepted tasks are those that wait, those that are run and those that have run;
2. every submitted task was either accepted or handed back, and handing one back changes
   nothing;
3. of tasks with different numbers, none that was handed back is the pool's, and each that
   is run is run by one worker;
4. those that had to wait are begun in the order in which they came;
5. when the pool is drained, all accepted tasks have run. -/
theorem run_conserves_tasks (config : PoolConfig) (ms : List Move) :
    let l := run config ms
    l.accepted.Perm (l.pool.queue ++ l.pool.running ++ l.pool.finished) ∧
      (submitted ms).Perm (l.accepted ++ l.handedBack) ∧
      (∀ t, (l.pool.offer t).1 = .rejected → (l.pool.offer t).2 = l.pool) ∧
      ((submitted ms).Nodup →
        (∀ t ∈ l.handedBack, t ∉ l.pool.queue ++ l.pool.running ++ l.pool.finished) ∧
        ∀ t ∈ l.pool.running, ∃ w, l.pool.activity? w = some (.running t) ∧
          ∀ w', l.pool.activity? w' = some (.running t) → w' = w) ∧
      l.queued = l.begun ++ l.pool.queue ∧
      (l.pool.isDrained = true → l.accepted.Perm l.pool.finished) := by
  intro l
  have hl : l.Balanced := balanced_run config ms
  have hsubmitted : (submitted ms).Perm (l.accepted ++ l.handedBack) := submitted_perm_run config ms
  refine ⟨hl.accepted, hsubmitted, fun t ht => ?_, fun hdistinct => ?_, hl.queued,
    fun hdrained => ?_⟩
  · have hsubmits := submits_offer l.pool t
    rw [ht] at hsubmits
    exact hsubmits.eq_of_rejected
  · obtain ⟨haccepted, _, hdisjoint⟩ := List.nodup_append.1 (hsubmitted.nodup_iff.1 hdistinct)
    have htasks : l.pool.tasks.Nodup := hl.accepted.nodup_iff.1 haccepted
    have hrunning : l.pool.running.Nodup :=
      (List.nodup_append.1 (List.nodup_append.1 htasks).1).2.1
    refine ⟨fun t hback hmine => ?_, fun t ht => ?_⟩
    · exact hdisjoint t (hl.accepted.mem_iff.2 hmine) t hback rfl
    · obtain ⟨w, hw⟩ := hl.staffed.exists_of_mem_running ht
      exact ⟨w, hw, fun w' hw' => hl.staffed.eq_of_running hrunning hw hw'⟩
  · exact hl.staffed.tasks_of_isDrained hdrained ▸ hl.accepted

/-- One worker and room for one task: the third task is handed back while the first is run and
the second waits; the worker then begins the second, and with it all accepted tasks have run. -/
theorem run_conserves_tasks_of_three :
    let one : PoolConfig := { core := 1, max := 1, queue := 1, keepAlive := 1000 }
    let full : List Move := [.submit 0, .submit 1]
    let turn : List Move := full ++ [.submit 2, .wakeOne, .finish 0, .seek 0 0]
    ((run one full).pool.offer 2).2 = (run one full).pool ∧
      (run one turn).handedBack = [2] ∧
      2 ∉ (run one turn).pool.tasks ∧
      (∃ w, (run one turn).pool.activity? w = some (.running 1) ∧
        ∀ w', (run one turn).pool.activity? w' = some (.running 1) → w' = w) ∧
      (run one (turn ++ [.finish 0])).accepted.Perm (run one (turn ++ [.finish 0])).pool.finished := by
  intro one full turn
  obtain ⟨-, -, hback, -⟩ := run_conserves_tasks one full
  obtain ⟨-, -, -, honce, -⟩ := run_conserves_tasks one turn
  obtain ⟨-, -, -, -, -, hdrained⟩ := run_conserves_tasks one (turn ++ [.finish 0])
  have hdistinct : (submitted turn).Nodup := by decide
  exact ⟨hback 2 (by decide), by decide, (honce hdistinct).1 2 (by decide),
    (honce hdistinct).2 1 (by decide), hdrained (by decide)⟩

end Ledger

end Pool

end WebServer
