import WebServer.Config
import WebServer.Proofs.Pool.Ledger
import WebServer.Proofs.Pool.Occupancy

/-!
# WebServer.Proofs.Pool.Progress

Whether somebody is there for the tasks that wait. A worker that has a task to take does not
park, and the last one does not leave while a task waits. So what matters is that there is a
worker when the first task is put into the queue. There is one whenever the pool has a core,
or no queue of its own; a pool with a queue but no core puts its first task where nobody is.

Main statement: this is the only case (`crew_ne_nil_iff`).
-/

namespace WebServer

namespace Pool

variable {p p' : Pool} {w t now : Nat} {a b : Activity} {o : Option Nat} {adm : Admission}
  {m : Move}

/-! ## Workers that are awake -/

/-- Some worker does not wait to be woken. -/
def Awake (p : Pool) : Prop := ∃ e ∈ p.crew, e.2.isParked = false

theorem awake_setActivity (h : (w, a) ∈ p.crew) (hb : b.isParked = false) :
    (p.setActivity w b).Awake :=
  ⟨(w, b), List.mem_map.2 ⟨(w, a), h, if_pos rfl⟩, hb⟩

theorem Awake.setActivity (h : p.Awake) (w : Nat) (hb : b.isParked = false) :
    (p.setActivity w b).Awake := by
  obtain ⟨e, he, hawake⟩ := h
  by_cases hw : e.1 = w
  · subst hw
    exact awake_setActivity he hb
  · exact ⟨e, List.mem_map.2 ⟨e, he, if_neg hw⟩, hawake⟩

theorem awake_start (p : Pool) (t : Nat) : (p.start t).Awake :=
  ⟨(p.hired, .running t), List.mem_append_right _ (List.mem_singleton.2 rfl), rfl⟩

/-- A wake-up leaves somebody awake: it wakes a worker, or all were awake. -/
theorem awake_notifyOne (h : p.crew ≠ []) : p.notifyOne.2.Awake := by
  unfold notifyOne
  split
  · next w a hfound => exact awake_setActivity (List.mem_of_find?_eq_some hfound) rfl
  · next hnone =>
      obtain ⟨e, he⟩ := List.exists_mem_of_ne_nil _ h
      exact ⟨e, he, by simpa using List.find?_eq_none.1 hnone e he⟩

theorem Awake.notifyOne (h : p.Awake) : p.notifyOne.2.Awake := by
  obtain ⟨e, he, _⟩ := h
  exact awake_notifyOne (List.ne_nil_of_mem he)

theorem Awake.notifyAll (h : p.Awake) : p.notifyAll.2.Awake := by
  obtain ⟨e, he, hawake⟩ := h
  exact ⟨e, List.mem_map.2 ⟨e, he, if_neg (by simp [hawake])⟩, hawake⟩

theorem Awake.wake (h : p.Awake) (w : Nat) : (p.wake w).Awake := by
  unfold Pool.wake
  split
  · exact h.setActivity w rfl
  · exact h

theorem Awake.finish (h : p.Awake) (w : Nat) : (p.finish w).Awake := by
  unfold Pool.finish
  split
  · exact h.setActivity w rfl
  · exact h

theorem Awake.seek (h : p.Awake) (hwaits : p.queue ≠ []) (w now : Nat) :
    (p.seek w now).Awake := by
  unfold Pool.seek
  split
  · split
    · exact h.setActivity w rfl
    · next hnone => exact absurd hnone hwaits
  · exact h

theorem Awake.expire (h : p.Awake) (hwaits : p.queue ≠ []) (w : Nat) : (p.expire w).Awake := by
  unfold Pool.expire
  split
  · split
    · next hleave =>
        simp only [Bool.and_eq_true, List.isEmpty_iff] at hleave
        exact absurd hleave.1 hwaits
    · exact h.setActivity w rfl
  · exact h

theorem Submits.awake (h : Submits p t adm p') (hp : p.Awake) : p'.Awake := by
  cases h with
  | reject | enqueue => exact hp
  | hire => exact awake_start p t

/-- While a task waits, nobody who is awake parks or leaves. -/
theorem Awake.step (h : p.Awake) (hwaits : p.queue ≠ []) (m : Move) : (p.step m).Awake := by
  cases m with
  | submit t => exact (submits_offer p t).awake h
  | wakeOne => exact h.notifyOne
  | wakeAll => exact h.notifyAll
  | wake w => exact h.wake w
  | finish w => exact h.finish w
  | seek w now => exact h.seek hwaits w now
  | expire w => exact h.expire hwaits w
  | close => exact h

/-! ## Workers for those that wait -/

/-- Somebody works for the pool while a task waits. -/
def Manned (p : Pool) : Prop := p.queue ≠ [] → 0 < p.workers

/-- A pool with a core puts nothing into its queue before it has its core; one without a queue
of its own, nothing that no idle worker takes. -/
theorem Submits.manned (h : Submits p t adm p') (hmanned : p.Manned)
    (hsizes : 0 < p.config.core ∨ p.config.queue = 0) : p'.Manned := by
  intro hwaits
  cases h with
  | reject => exact hmanned hwaits
  | hire => exact Nat.succ_pos _
  | enqueue _ hcore hroom =>
      -- Either a worker is free, or the queue has room: then there is a core, which is full.
      show 0 < p.workers
      omega

theorem Works.manned (h : Works p o p') (hmanned : p.Manned) : p'.Manned := by
  intro hwaits
  cases h with
  | rest | finish => exact hmanned hwaits
  | take hqueue => exact hmanned (by rw [hqueue]; exact List.cons_ne_nil _ _)
  | leave hempty => exact absurd hempty hwaits

theorem Staffed.manned_step (hp : p.Staffed) (hmanned : p.Manned)
    (hsizes : 0 < p.config.core ∨ p.config.queue = 0) (m : Move) : (p.step m).Manned := by
  rcases hp.step_cases m with ⟨_, _, hsubmits⟩ | ⟨_, hworks⟩
  · exact hsubmits.manned hmanned hsizes
  · exact hworks.manned hmanned

theorem Staffed.crew_ne_nil (hp : p.Staffed) (h : 0 < p.workers) : p.crew ≠ [] := by
  rw [hp.workers_eq] at h
  exact List.length_pos_iff.1 h

/-- A pool with a queue but no core puts its first task into the queue, and has nobody. -/
theorem submit_of_core_eq_zero {config : PoolConfig} (hcore : config.core = 0)
    (hqueue : 0 < config.queue) (t : Nat) :
    (Pool.step { config } (.submit t)).queue = [t] ∧
      (Pool.step { config } (.submit t)).crew = [] := by
  simp [Pool.step, offer, hcore, hqueue]

namespace Ledger

variable {l : Ledger}

/-- For the tasks that wait there are workers, and one is awake or about to be woken. -/
structure Attended (l : Ledger) : Prop where
  manned : l.pool.Manned
  awake : l.pool.queue ≠ [] → 0 < l.owed ∨ l.pool.Awake

theorem Attended.awake_enterSubmission (hl : l.Attended) {pool : Pool}
    (h : Submits l.pool t adm pool) (hwaits : (l.enterSubmission t adm pool).pool.queue ≠ []) :
    0 < (l.enterSubmission t adm pool).owed ∨ (l.enterSubmission t adm pool).pool.Awake := by
  cases h with
  | reject => exact hl.awake hwaits
  | hire => exact .inr (awake_start l.pool t)
  | enqueue => exact .inl (Nat.succ_pos _)

theorem Attended.enter (hl : l.Attended) (hp : l.pool.Staffed)
    (hsizes : 0 < l.pool.config.core ∨ l.pool.config.queue = 0) (m : Move) :
    (l.enter m).Attended := by
  refine ⟨?_, ?_⟩
  · rw [pool_enter]
    exact hp.manned_step hl.manned hsizes m
  · rcases hp.step_cases m with ⟨t, rfl, hsubmits⟩ | ⟨hm, hworks⟩
    · exact hl.awake_enterSubmission hsubmits
    · rw [enter_of_work l hm]
      intro hwaits
      have hwaited : l.pool.queue ≠ [] := by
        rw [hworks.queue_eq]
        exact List.append_ne_nil_of_right_ne_nil _ hwaits
      -- The wake-up that is no longer owed has found somebody, for somebody was there.
      by_cases hone : m = .wakeOne
      · subst hone
        exact .inr (awake_notifyOne (hp.crew_ne_nil (hl.manned hwaited)))
      · rcases hl.awake hwaited with howed | hawake
        · exact .inl (Nat.lt_of_lt_of_eq howed (if_neg hone).symm)
        · exact .inr (hawake.step hwaited m)

theorem attended_run {config : PoolConfig} (hsizes : 0 < config.core ∨ config.queue = 0)
    (ms : List Move) : (run config ms).Attended := by
  have hnew : Attended { pool := { config } } :=
    ⟨fun hwaits => absurd rfl hwaits, fun hwaits => absurd rfl hwaits⟩
  refine (run_induction (P := fun l =>
    (0 < l.pool.config.core ∨ l.pool.config.queue = 0) ∧ l.Attended) config ⟨hsizes, hnew⟩ ?_ ms).2
  rintro l m hl ⟨hsizes, hattended⟩
  refine ⟨?_, hattended.enter hl.staffed hsizes m⟩
  rw [pool_enter, hl.staffed.config_step m]
  exact hsizes

/-- No task that waits is ever without workers, if and only if the pool has a core or no queue
of its own. Then a worker is even awake, once the submissions that were queued have made
their wake-ups. -/
theorem crew_ne_nil_iff (config : PoolConfig) :
    ((∀ ms, (run config ms).pool.queue ≠ [] → (run config ms).pool.crew ≠ []) ↔
      0 < config.core ∨ config.queue = 0) ∧
    (0 < config.core ∨ config.queue = 0 → ∀ ms, (run config ms).pool.queue ≠ [] →
      (run config ms).owed = 0 → ∃ e ∈ (run config ms).pool.crew, e.2.isParked = false) := by
  refine ⟨⟨fun hmanned => ?_, fun hsizes ms hwaits => ?_⟩, fun hsizes ms hwaits howed => ?_⟩
  · have hfirst := hmanned [.submit 0]
    rw [pool_run] at hfirst
    by_cases hcore : 0 < config.core
    · exact .inl hcore
    · by_cases hqueue : 0 < config.queue
      · obtain ⟨hwaits, hnobody⟩ := submit_of_core_eq_zero (Nat.eq_zero_of_not_pos hcore) hqueue 0
        exact absurd hnobody (hfirst (hwaits ▸ List.cons_ne_nil _ _))
      · exact .inr (Nat.eq_zero_of_not_pos hqueue)
  · exact (balanced_run config ms).staffed.crew_ne_nil ((attended_run hsizes ms).manned hwaits)
  · exact ((attended_run hsizes ms).awake hwaits).resolve_left (by omega)

/-- An accepted configuration without a core: the first task is accepted, and waits in a pool
that has nobody. With a core of one worker, that worker is awake while the second task
waits. -/
theorem crew_ne_nil_iff_of_no_core :
    let coreless : Config := { pool := { coreSize := 0, maxSize := 1, queueSize := 1 } }
    let one : Config := { pool := { coreSize := 1, maxSize := 1, queueSize := 1 } }
    coreless.validate = .ok coreless ∧
      (run coreless.pool.poolConfig [.submit 0]).accepted = [0] ∧
      (run coreless.pool.poolConfig [.submit 0]).pool.queue = [0] ∧
      (run coreless.pool.poolConfig [.submit 0]).pool.crew = [] ∧
      ¬ (∀ ms, (run coreless.pool.poolConfig ms).pool.queue ≠ [] →
        (run coreless.pool.poolConfig ms).pool.crew ≠ []) ∧
      one.validate = .ok one ∧
      ∃ e ∈ (run one.pool.poolConfig [.submit 0, .submit 1, .wakeOne]).pool.crew,
        e.2.isParked = false := by
  intro coreless one
  refine ⟨by simp [coreless, Config.validate, Config.fault?], by decide, by decide, by decide, ?_,
    by simp [one, Config.validate, Config.fault?], ?_⟩
  · rw [(crew_ne_nil_iff coreless.pool.poolConfig).1]
    decide
  · exact (crew_ne_nil_iff one.pool.poolConfig).2 (by decide) [.submit 0, .submit 1, .wakeOne]
      (by decide) (by decide)

end Ledger

end Pool

end WebServer
