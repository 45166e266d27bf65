import WebServer.Pool

/-!
# WebServer.Proofs.Pool.Step

What can happen to a pool, one lock at a time and in any order (`Move`). Two lists of cases
say all that a step can do: a submission is taken or handed back (`Submits`), and a worker
takes a task, is done with it, leaves, or changes nothing that counts (`Works`).

What counts is who works for the pool and who holds which task (`roll`); the order of the
workers does not, nor who of the others waits to be woken. So a wake-up may reach any worker
at any time, and nothing is lost by letting a worker look for a task and park in one step.

Main statement: the books agree with the roll in every state (`Staffed.run`).
-/

namespace WebServer

namespace Pool

/-! ## Moves -/

/-- What can happen to a pool. -/
inductive Move where
  /-- A task is submitted. -/
  | submit (t : Nat)
  /-- The wake-up that a queued submission makes. -/
  | wakeOne
  | wakeAll
  /-- Some parked worker is woken, in whatever order. -/
  | wake (w : Nat)
  /-- A worker's task ends, normally or by a panic. -/
  | finish (w : Nat)
  | seek (w now : Nat)
  | expire (w : Nat)
  | close
deriving DecidableEq

/-- A parked worker is woken. -/
def wake (p : Pool) (w : Nat) : Pool :=
  match p.activity? w with
  | some (.parked _) => p.setActivity w .seeking
  | _ => p

/-- The pool after a move. -/
def step (p : Pool) : Move → Pool
  | .submit t => (p.offer t).2
  | .wakeOne => p.notifyOne.2
  | .wakeAll => p.notifyAll.2
  | .wake w => p.wake w
  | .finish w => p.finish w
  | .seek w now => p.seek w now
  | .expire w => p.expire w
  | .close => p.close

/-- The pool after some moves. -/
def run (p : Pool) (ms : List Move) : Pool := ms.foldl step p

/-! ## Who works for the pool -/

/-- The numbers of workers, each with the task that it holds. -/
def rollOf (crew : List (Nat × Activity)) : List (Nat × Option Nat) :=
  crew.map fun e => (e.1, e.2.task?)

/-- The workers of the pool, each with the task that it holds. -/
def roll (p : Pool) : List (Nat × Option Nat) := rollOf p.crew

/-- The tasks that workers hold. -/
def running (p : Pool) : List Nat := p.roll.filterMap Prod.snd

/-- The numbers of the workers. -/
def ids (p : Pool) : List Nat := p.roll.map Prod.fst

/-- The other workers. -/
def others (p : Pool) (w : Nat) : List (Nat × Option Nat) := rollOf (p.without w)

/-- The books agree with the roll: no two workers have the same number, those to come get
new ones, and workers and held tasks are counted rightly. -/
structure Staffed (p : Pool) : Prop where
  distinct : p.ids.Nodup
  hired : ∀ i ∈ p.ids, i < p.hired
  workers : p.workers = p.roll.length
  busy : p.busy = p.running.length

variable {p p' : Pool} {w t now : Nat} {a b : Activity}

theorem mem_of_activity? (h : p.activity? w = some a) : (w, a) ∈ p.crew := by
  obtain ⟨e, he, rfl⟩ := Option.map_eq_some_iff.1 h
  obtain rfl : e.1 = w := by simpa using List.find?_some he
  exact List.mem_of_find?_eq_some he

theorem ids_eq (p : Pool) : p.ids = p.crew.map (·.1) := by
  simp [ids, roll, rollOf]

/-- A worker stands in one place of the crew, and what is done there concerns nobody else. -/
theorem Staffed.exists_crew_eq (hp : p.Staffed) (h : (w, a) ∈ p.crew) :
    ∃ xs ys, p.crew = xs ++ (w, a) :: ys ∧ p.without w = xs ++ ys ∧
      ∀ b, (p.setActivity w b).crew = xs ++ (w, b) :: ys := by
  obtain ⟨xs, ys, hcrew⟩ := List.append_of_mem h
  have hdistinct := hp.distinct
  rw [ids_eq, hcrew, List.map_append, List.map_cons] at hdistinct
  have hnot : w ∉ (xs ++ ys).map (·.1) := by
    rw [List.map_append]
    exact (List.nodup_cons.1 (List.perm_middle.nodup_iff.1 hdistinct)).1
  have hne : ∀ e ∈ xs ++ ys, e.1 ≠ w := fun e he hw => hnot (hw ▸ List.mem_map_of_mem he)
  refine ⟨xs, ys, hcrew, ?_, fun b => ?_⟩
  · rw [without, hcrew, List.filter_append, List.filter_cons_of_neg (by simp),
      ← List.filter_append, List.filter_eq_self]
    simpa using hne
  · have hkept : ∀ zs : List (Nat × Activity), (∀ e ∈ zs, e.1 ≠ w) →
        (zs.map fun e => if e.1 = w then (w, b) else e) = zs := by
      intro zs hzs
      exact (List.map_congr_left fun e he => if_neg (hzs e he)).trans (List.map_id zs)
    show p.crew.map _ = _
    rw [hcrew, List.map_append, List.map_cons, if_pos rfl,
      hkept xs fun e he => hne e (List.mem_append_left _ he),
      hkept ys fun e he => hne e (List.mem_append_right _ he)]

/-- The roll is a worker and the others. -/
theorem Staffed.roll_perm (hp : p.Staffed) (h : (w, a) ∈ p.crew) :
    p.roll.Perm ((w, a.task?) :: p.others w) := by
  obtain ⟨xs, ys, hcrew, hwithout, _⟩ := hp.exists_crew_eq h
  rw [roll, others, hwithout, hcrew]
  simp only [rollOf, List.map_append, List.map_cons]
  exact List.perm_middle

theorem Staffed.roll_setActivity_perm (hp : p.Staffed) (h : (w, a) ∈ p.crew) (b : Activity) :
    (p.setActivity w b).roll.Perm ((w, b.task?) :: p.others w) := by
  obtain ⟨xs, ys, _, hwithout, hset⟩ := hp.exists_crew_eq h
  rw [roll, others, hwithout, hset]
  simp only [rollOf, List.map_append, List.map_cons]
  exact List.perm_middle

/-! ## What a worker does -/

/-- Whoever is in the crew is found there. -/
theorem Staffed.activity?_of_mem (hp : p.Staffed) (h : (w, a) ∈ p.crew) :
    p.activity? w = some a := by
  obtain ⟨xs, ys, hcrew, hwithout, _⟩ := hp.exists_crew_eq h
  have hnone : xs.find? (·.1 == w) = none := by
    refine List.find?_eq_none.2 fun e he => ?_
    have he : e ∈ p.without w := hwithout ▸ List.mem_append_left _ he
    simpa using (List.mem_filter.1 he).2
  simp [activity?, hcrew, List.find?_append, hnone]

/-- Whoever is found in the crew is doing what is found. -/
theorem activity?_setActivity (h : p.activity? w = some a) (b : Activity) :
    (p.setActivity w b).activity? w = some b := by
  obtain ⟨e, he, rfl⟩ := Option.map_eq_some_iff.1 h
  have hw : e.1 = w := by simpa using List.find?_some he
  have hsame : ((fun e : Nat × Activity => e.1 == w) ∘ fun e => if e.1 = w then (w, b) else e) =
      fun e => e.1 == w := by
    funext e
    by_cases hew : e.1 = w <;> simp [hew]
  simp only [activity?, setActivity, List.find?_map, hsame, he, Option.map_some, if_pos hw]

theorem find?_without (p : Pool) (w : Nat) : (p.without w).find? (·.1 == w) = none :=
  List.find?_eq_none.2 fun e he => by simpa using (List.mem_filter.1 he).2

/-- A worker that has left is found no more. -/
theorem activity?_of_without (h : p'.crew = p.without w) : p'.activity? w = none := by
  rw [activity?, h, p.find?_without, Option.map_none]

/-- A worker that has parked is found behind the others. -/
theorem activity?_of_append (h : p'.crew = p.without w ++ [(w, a)]) :
    p'.activity? w = some a := by
  simp [activity?, h, List.find?_append, p.find?_without]

/-- The task that a worker begins when it looks for one. -/
def begun? (p : Pool) (w now : Nat) : Option Nat :=
  match p.activity? w with
  | some .seeking => ((p.seek w now).activity? w).bind Activity.task?
  | _ => none

/-! ## Submissions -/

/-- All that can become of a submission. -/
inductive Submits (p : Pool) (t : Nat) : Admission → Pool → Prop where
  /-- It is handed back, and the pool stays as it is. -/
  | reject :
      p.isShut = true ∨ (p.config.core ≤ p.workers ∧ p.workers - p.busy ≤ p.queue.length ∧
        p.config.queue ≤ p.queue.length ∧ p.config.max ≤ p.workers) →
      Submits p t .rejected p
  | hire :
      p.isShut = false → p.workers < p.config.core ∨ p.workers < p.config.max →
      Submits p t (.started p.hired) (p.start t)
  | enqueue :
      p.isShut = false → p.config.core ≤ p.workers →
      p.queue.length < p.workers - p.busy ∨ p.queue.length < p.config.queue →
      Submits p t .queued { p with queue := p.queue ++ [t] }

theorem submits_offer (p : Pool) (t : Nat) : Submits p t (p.offer t).1 (p.offer t).2 := by
  unfold offer
  split
  · next hshut => exact .reject (.inl hshut)
  · next hshut =>
      have hopen : p.isShut = false := by simpa using hshut
      split
      · next hcore => exact .hire hopen (.inl hcore)
      · next hcore =>
          split
          · next hroom =>
              simp only [Bool.or_eq_true, decide_eq_true_eq] at hroom
              exact .enqueue hopen (Nat.not_lt.1 hcore) hroom
          · next hfull =>
              simp only [Bool.or_eq_true, decide_eq_true_eq, not_or, Nat.not_lt] at hfull
              split
              · next hmax => exact .hire hopen (.inr hmax)
              · next hmax => exact .reject (.inr (by omega))

/-! ## Work -/

/-- All that any other move can do, and the tasks that a worker begins by it. -/
inductive Works (p : Pool) : Option Nat → Pool → Prop where
  /-- Workers are woken or park; nobody comes or goes, and no task moves. -/
  | rest {crew : List (Nat × Activity)} {permit isShut : Bool} :
      (rollOf crew).Perm p.roll → (p.isShut = true → isShut = true) →
      Works p none { p with crew, permit, isShut }
  /-- A worker takes the task that has waited for longest. -/
  | take {w t : Nat} {queue : List Nat} {crew : List (Nat × Activity)} {permit : Bool}
      {others : List (Nat × Option Nat)} :
      p.queue = t :: queue → p.roll.Perm ((w, none) :: others) →
      (rollOf crew).Perm ((w, some t) :: others) →
      Works p (some t) { p with crew, queue, busy := p.busy + 1, permit }
  /-- A worker is done with its task. -/
  | finish {w t : Nat} {crew : List (Nat × Activity)} {others : List (Nat × Option Nat)} :
      p.roll.Perm ((w, some t) :: others) → (rollOf crew).Perm ((w, none) :: others) →
      Works p none { p with crew, busy := p.busy - 1, finished := t :: p.finished }
  /-- A worker without a task leaves while none waits: the pool is closed, or the worker is
  an extra one. -/
  | leave {w : Nat} {crew : List (Nat × Activity)} {permit : Bool} :
      p.queue = [] → p.isShut = true ∨ p.config.core < p.workers →
      p.roll.Perm ((w, none) :: rollOf crew) →
      Works p none { p with crew, workers := p.workers - 1, permit }

theorem works_self (p : Pool) : Works p none p := .rest (.refl _) id

/-- A worker without a task does something else without one. -/
theorem Staffed.works_setActivity (hp : p.Staffed) (h : p.activity? w = some a)
    (ha : a.task? = none) (hb : b.task? = none) : Works p none (p.setActivity w b) := by
  have hmem := mem_of_activity? h
  have hbefore := hp.roll_perm hmem
  have hafter := hp.roll_setActivity_perm hmem b
  rw [ha] at hbefore
  rw [hb] at hafter
  exact .rest (hafter.trans hbefore.symm) id

theorem Staffed.works_wake (hp : p.Staffed) (w : Nat) : Works p none (p.wake w) := by
  unfold wake
  split
  · next d h => exact hp.works_setActivity h rfl rfl
  · exact works_self p

theorem Staffed.works_notifyOne (hp : p.Staffed) : Works p none p.notifyOne.2 := by
  unfold notifyOne
  split
  · next w a h =>
      have hmem := List.mem_of_find?_eq_some h
      have ha : a.task? = none := by
        have hparked := List.find?_some h
        cases a <;> simp_all [Activity.isParked, Activity.task?]
      have hbefore := hp.roll_perm hmem
      rw [ha] at hbefore
      exact .rest ((hp.roll_setActivity_perm hmem .seeking).trans hbefore.symm) id
  · exact .rest (.refl _) id

theorem works_notifyAll (p : Pool) : Works p none p.notifyAll.2 := by
  refine .rest (.of_eq ?_) id
  simp only [roll, rollOf, List.map_map]
  refine List.map_congr_left fun e _ => ?_
  obtain ⟨w, a⟩ := e
  cases a <;> rfl

theorem works_close (p : Pool) : Works p none p.close := .rest (.refl _) fun _ => rfl

theorem Staffed.works_finish (hp : p.Staffed) (w : Nat) : Works p none (p.finish w) := by
  unfold finish
  split
  · next t h =>
      have hmem := mem_of_activity? h
      exact .finish (hp.roll_perm hmem) (hp.roll_setActivity_perm hmem .seeking)
  · exact works_self p

theorem Staffed.works_expire (hp : p.Staffed) (w : Nat) : Works p none (p.expire w) := by
  unfold expire
  split
  · next d h =>
      split
      · next hleave =>
          simp only [Bool.and_eq_true, List.isEmpty_iff, decide_eq_true_eq] at hleave
          exact .leave hleave.1 (.inr hleave.2) (hp.roll_perm (mem_of_activity? h))
      · exact hp.works_setActivity h rfl rfl
  · exact works_self p

theorem Staffed.works_of_seeking (hp : p.Staffed) (h : p.activity? w = some .seeking) (now : Nat) :
    ∃ o, ((p.seek w now).activity? w).bind Activity.task? = o ∧ Works p o (p.seek w now) := by
  have hmem := mem_of_activity? h
  have hroll : p.roll.Perm ((w, none) :: p.others w) := hp.roll_perm hmem
  unfold seek
  rw [h]
  dsimp only
  split
  · next t queue hqueue =>
      exact ⟨some t, congrArg (·.bind Activity.task?) (activity?_setActivity h _),
        .take hqueue hroll (hp.roll_setActivity_perm hmem (.running t))⟩
  · next hqueue =>
      split
      · next hshut =>
          exact ⟨none, congrArg (·.bind Activity.task?) (activity?_of_without rfl),
            .leave hqueue (.inl hshut) hroll⟩
      · split
        · exact ⟨none, congrArg (·.bind Activity.task?) h, .rest (.refl _) id⟩
        · refine ⟨none, ?_, .rest (.trans ?_ hroll.symm) id⟩
          · rw [activity?_of_append rfl]
            rfl
          · simp [rollOf, others, Activity.task?]

theorem Staffed.works_seek (hp : p.Staffed) (w now : Nat) :
    Works p (p.begun? w now) (p.seek w now) := by
  unfold begun?
  split
  · next h =>
      obtain ⟨o, rfl, hworks⟩ := hp.works_of_seeking h now
      exact hworks
  · next h =>
      unfold seek
      split
      · next hseeking => exact absurd hseeking h
      · exact works_self p

theorem Submits.config_eq {adm : Admission} (h : Submits p t adm p') : p'.config = p.config := by
  cases h <;> rfl

theorem Works.config_eq {o : Option Nat} (h : Works p o p') : p'.config = p.config := by
  cases h <;> rfl

/-! ## The books -/

/-- Every task that the pool has taken and not handed back. -/
def tasks (p : Pool) : List Nat := p.queue ++ p.running ++ p.finished

variable {o : Option Nat} {adm : Admission} {m : Move} {ms : List Move}

theorem running_perm_of_none {others : List (Nat × Option Nat)}
    (h : p.roll.Perm ((w, none) :: others)) : p.running.Perm (others.filterMap Prod.snd) :=
  h.filterMap _

theorem running_perm_of_some {others : List (Nat × Option Nat)}
    (h : p.roll.Perm ((w, some t) :: others)) : p.running.Perm (t :: others.filterMap Prod.snd) :=
  h.filterMap _

/-- A task that is run is run by a worker. -/
theorem Staffed.exists_of_mem_running (hp : p.Staffed) (h : t ∈ p.running) :
    ∃ w, p.activity? w = some (.running t) := by
  obtain ⟨⟨w, _⟩, hroll, rfl⟩ := List.mem_filterMap.1 h
  obtain ⟨⟨_, a⟩, hcrew, heq⟩ := List.mem_map.1 hroll
  obtain ⟨rfl, ha⟩ := Prod.mk.inj heq
  cases a with
  | running t => cases ha; exact ⟨_, hp.activity?_of_mem hcrew⟩
  | seeking | parked => cases ha

/-- Two workers that run the same task run it twice. -/
theorem Staffed.eq_of_running (hp : p.Staffed) (hdistinct : p.running.Nodup) {w' : Nat}
    (h : p.activity? w = some (.running t)) (h' : p.activity? w' = some (.running t)) :
    w' = w := by
  by_cases hne : w' = w
  · exact hne
  · have hrunning := running_perm_of_some (hp.roll_perm (mem_of_activity? h))
    have hwithout : (w', Activity.running t) ∈ p.without w :=
      List.mem_filter.2 ⟨mem_of_activity? h', by simpa using hne⟩
    have htwice : t ∈ (p.others w).filterMap Prod.snd :=
      List.mem_filterMap.2 ⟨(w', some t), List.mem_map_of_mem hwithout, rfl⟩
    exact absurd htwice (List.nodup_cons.1 (hrunning.nodup_iff.1 hdistinct)).1

/-- The books stay right if the workers stay and the held tasks are counted rightly. -/
theorem Staffed.of_ids_perm (hp : p.Staffed) (hids : p'.ids.Perm p.ids)
    (hhired : p'.hired = p.hired) (hworkers : p'.workers = p.workers)
    (hbusy : p'.busy = p'.running.length) : p'.Staffed where
  distinct := hids.nodup_iff.2 hp.distinct
  hired := fun i hi => hhired ▸ hp.hired i (hids.mem_iff.1 hi)
  workers := by
    have hlength := hids.length_eq
    rw [ids, ids, List.length_map, List.length_map] at hlength
    rw [hworkers, hp.workers, hlength]
  busy := hbusy

theorem Works.staffed (h : Works p o p') (hp : p.Staffed) : p'.Staffed := by
  have hbusy := hp.busy
  cases h with
  | rest hroll _ =>
      exact hp.of_ids_perm (hroll.map _) rfl rfl (hbusy.trans (hroll.filterMap _).length_eq.symm)
  | @take w t queue crew permit others hqueue hroll hroll' =>
      refine hp.of_ids_perm ((hroll'.map _).trans (hroll.map Prod.fst).symm) rfl rfl ?_
      show p.busy + 1 = ((rollOf crew).filterMap Prod.snd).length
      rw [hbusy, (running_perm_of_none hroll).length_eq, (hroll'.filterMap _).length_eq]
      rfl
  | @finish w t crew others hroll hroll' =>
      refine hp.of_ids_perm ((hroll'.map _).trans (hroll.map Prod.fst).symm) rfl rfl ?_
      show p.busy - 1 = ((rollOf crew).filterMap Prod.snd).length
      rw [hbusy, (running_perm_of_some hroll).length_eq, (hroll'.filterMap _).length_eq]
      rfl
  | leave hqueue _ hroll =>
      have hids := hroll.map Prod.fst
      have hdistinct := hids.nodup_iff.1 hp.distinct
      have hworkers := hp.workers
      rw [hroll.length_eq, List.length_cons] at hworkers
      refine ⟨(List.nodup_cons.1 hdistinct).2, fun i hi => ?_, ?_, ?_⟩
      · exact hp.hired i (hids.mem_iff.2 (List.mem_cons_of_mem _ hi))
      · exact congrArg (· - 1) hworkers
      · exact hbusy.trans (running_perm_of_none hroll).length_eq

theorem roll_start (p : Pool) (t : Nat) : (p.start t).roll = p.roll ++ [(p.hired, some t)] := by
  simp [roll, rollOf, start, Activity.task?]

theorem running_start (p : Pool) (t : Nat) : (p.start t).running = p.running ++ [t] := by
  simp [running, roll_start]

theorem Submits.staffed (h : Submits p t adm p') (hp : p.Staffed) : p'.Staffed := by
  cases h with
  | reject => exact hp
  | enqueue => exact hp.of_ids_perm (.refl _) rfl rfl hp.busy
  | hire =>
      have hids : (p.start t).ids = p.ids ++ [p.hired] := by simp [ids, roll_start]
      refine ⟨?_, fun i hi => ?_, ?_, ?_⟩
      · rw [hids, List.nodup_append]
        refine ⟨hp.distinct, by simp, fun i hi j hj => ?_⟩
        rw [List.mem_singleton.1 hj]
        exact Nat.ne_of_lt (hp.hired i hi)
      · rw [hids, List.mem_append, List.mem_singleton] at hi
        show i < p.hired + 1
        rcases hi with hi | rfl
        · exact Nat.lt_succ_of_lt (hp.hired i hi)
        · exact Nat.lt_succ_self _
      · rw [roll_start, List.length_append, ← hp.workers]
        rfl
      · rw [running_start, List.length_append, ← hp.busy]
        rfl

/-- The task that a worker begins by a move. -/
def Move.begun? (p : Pool) : Move → Option Nat
  | .seek w now => p.begun? w now
  | _ => none

/-- A move that is no submission is somebody's work. -/
theorem Staffed.works_step (hp : p.Staffed) (hm : ∀ t, m ≠ .submit t) :
    Works p (m.begun? p) (p.step m) := by
  cases m with
  | submit t => exact absurd rfl (hm t)
  | wakeOne => exact hp.works_notifyOne
  | wakeAll => exact works_notifyAll p
  | wake w => exact hp.works_wake w
  | finish w => exact hp.works_finish w
  | seek w now => exact hp.works_seek w now
  | expire w => exact hp.works_expire w
  | close => exact works_close p

/-- A move submits a task or is somebody's work. -/
theorem Staffed.step_cases (hp : p.Staffed) (m : Move) :
    (∃ t, m = .submit t ∧ Submits p t (p.offer t).1 (p.step m)) ∨
      (∀ t, m ≠ .submit t) ∧ Works p (m.begun? p) (p.step m) := by
  by_cases hm : ∃ t, m = .submit t
  · obtain ⟨t, rfl⟩ := hm
    exact .inl ⟨t, rfl, submits_offer p t⟩
  · have hm : ∀ t, m ≠ .submit t := fun t ht => hm ⟨t, ht⟩
    exact .inr ⟨hm, hp.works_step hm⟩

theorem Staffed.step (hp : p.Staffed) (m : Move) : (p.step m).Staffed := by
  rcases hp.step_cases m with ⟨_, _, hsubmits⟩ | ⟨_, hworks⟩
  · exact hsubmits.staffed hp
  · exact hworks.staffed hp

/-- What every step keeps, a run keeps. -/
theorem Staffed.run_induction {P : Pool → Prop} (hp : p.Staffed) (h : P p)
    (hstep : ∀ p m, p.Staffed → P p → P (p.step m)) (ms : List Move) : P (p.run ms) := by
  induction ms generalizing p with
  | nil => exact h
  | cons m ms ih => exact ih (hp.step m) (hstep p m hp h)

/-- The sizes of a pool are fixed. -/
theorem Staffed.config_step (hp : p.Staffed) (m : Move) : (p.step m).config = p.config := by
  rcases hp.step_cases m with ⟨_, _, hsubmits⟩ | ⟨_, hworks⟩
  · exact hsubmits.config_eq
  · exact hworks.config_eq

theorem Staffed.config_run (hp : p.Staffed) (ms : List Move) : (p.run ms).config = p.config :=
  hp.run_induction (P := fun p' => p'.config = p.config) rfl
    (fun _ m h hconfig => (h.config_step m).trans hconfig) ms

theorem Staffed.run (hp : p.Staffed) (ms : List Move) : (p.run ms).Staffed :=
  hp.run_induction hp (fun _ m h _ => h.step m) ms

/-- A new pool has nobody. -/
theorem staffed_new (config : PoolConfig) : Staffed { config } :=
  ⟨List.nodup_nil, fun _ hi => absurd hi List.not_mem_nil, rfl, rfl⟩

end Pool

end WebServer
