import WebServer.Pool.Schedule
import WebServer.Proofs.Pool.Step

/-!
# WebServer.Proofs.Pool.Schedule

A pool at work makes no moves but those of `Move`: its schedule chooses their order. So what
holds of a pool after any moves holds of it after whatever is done to its schedule.

Main statement: some moves lead to every state that deeds lead to (`Schedule.leads_after`).
-/

namespace WebServer

namespace Pool

/-- Some moves lead from one state of a pool to another. -/
def Leads (p p' : Pool) : Prop := ∃ ms, p' = p.run ms

variable {p p' p'' : Pool}

theorem Leads.refl (p : Pool) : p.Leads p := ⟨[], rfl⟩

theorem Leads.trans (h : p.Leads p') (h' : p'.Leads p'') : p.Leads p'' := by
  obtain ⟨ms, rfl⟩ := h
  obtain ⟨ms', rfl⟩ := h'
  exact ⟨ms ++ ms', List.foldl_append.symm⟩

theorem leads_step (p : Pool) (m : Move) : p.Leads (p.step m) := ⟨[m], rfl⟩

end Pool

namespace Schedule

open Pool

/-! ## Workers -/

theorem leads_stepWorker (s : Schedule) (w : Nat) : s.pool.Leads (s.stepWorker w).pool := by
  unfold stepWorker
  split
  · exact .refl _
  · exact .refl _
  · split
    · exact s.pool.leads_step (.finish w)
    · exact s.pool.leads_step (.finish w)
    · exact .refl _
    · exact .refl _
  · have hseek := s.pool.leads_step (.seek w s.now)
    dsimp only
    split
    · exact hseek
    · exact hseek
    · split
      · exact hseek.trans (Pool.leads_step _ (.expire w))
      · exact hseek
    · exact hseek

theorem leads_run (n : Nat) (s : Schedule) : s.pool.Leads (run n s).pool := by
  induction n generalizing s with
  | zero => exact .refl _
  | succ n ih =>
      unfold run
      split
      · exact .refl _
      · exact (s.leads_stepWorker _).trans (ih _)

theorem leads_settle (s : Schedule) : s.pool.Leads s.settle.pool := leads_run _ s

/-! ## What is done to the pool -/

theorem leads_submit (s : Schedule) (label : String) (kind : TaskKind) :
    s.pool.Leads (s.submit label kind).2.pool := by
  have hoffer := s.pool.leads_step (.submit s.jobs.length)
  unfold submit
  dsimp only
  split
  · next w pool h =>
      rw [show s.pool.step (.submit s.jobs.length) = pool from congrArg Prod.snd h] at hoffer
      exact hoffer.trans (leads_settle _)
  · next pool h =>
      rw [show s.pool.step (.submit s.jobs.length) = pool from congrArg Prod.snd h] at hoffer
      exact (hoffer.trans (pool.leads_step .wakeOne)).trans (leads_settle _)
  · next pool h =>
      rw [show s.pool.step (.submit s.jobs.length) = pool from congrArg Prod.snd h] at hoffer
      exact hoffer

theorem leads_release (s : Schedule) (label : String) :
    s.pool.Leads (s.release label).2.pool := by
  unfold release
  split
  · exact .refl _
  · exact leads_settle _

theorem leads_shutdown (s : Schedule) : s.pool.Leads s.shutdown.pool :=
  ((s.pool.leads_step .close).trans (Pool.leads_step _ .wakeAll)).trans (leads_settle _)

/-! ## Time -/

theorem leads_fire (s : Schedule) (a : Alarm) : s.pool.Leads (s.fire a).pool := by
  cases a with
  | wakeTask w => exact .refl _
  | idle w => exact s.pool.leads_step (.expire w)

theorem leads_fireAt (s : Schedule) (t : Nat) : s.pool.Leads (s.fireAt t).pool := by
  have hfoldl : ∀ (due : List (Nat × Alarm)) (s : Schedule),
      s.pool.Leads (due.foldl (fun s e => s.fire e.2) s).pool := by
    intro due
    induction due with
    | nil => exact fun s => .refl _
    | cons e due ih => exact fun s => (s.leads_fire e.2).trans (ih _)
  unfold fireAt
  exact (hfoldl _ { s with now := t, alarms := s.alarms.filter (·.1 ≠ t) }).trans (leads_settle _)

theorem leads_passUntil (stop : Schedule → Bool) (t n : Nat) (s : Schedule) :
    s.pool.Leads (passUntil stop t n s).pool := by
  induction n generalizing s with
  | zero => exact .refl _
  | succ n ih =>
      unfold passUntil
      split
      · exact .refl _
      · split
        · exact .refl _
        · split
          · exact (s.leads_fireAt _).trans (ih _)
          · exact .refl _

theorem leads_advanceTo (s : Schedule) (t : Nat) : s.pool.Leads (s.advanceTo t).pool :=
  leads_passUntil _ _ _ s

theorem leads_drain (s : Schedule) (ms : Nat) : s.pool.Leads (s.drain ms).2.pool := by
  have hpass := leads_passUntil (·.pool.isDrained) (s.now + ms) s.alarmBound s
  unfold drain
  dsimp only
  split
  · exact hpass
  · exact hpass.trans (leads_advanceTo _ _)

theorem leads_runHandedBack (s : Schedule) (label : String) :
    s.pool.Leads (s.runHandedBack label).2.pool := by
  unfold runHandedBack
  split
  · exact .refl _
  · next t _ =>
      dsimp only
      split
      · exact .refl _
      · next ms _ =>
          let s : Schedule := { s with handedBack := s.handedBack.filter (· ≠ t) }
          let s' := passUntil (fun _ => false) (s.now + ms) s.alarmBound s
          have hpass : s.pool.Leads s'.pool := leads_passUntil _ _ _ s
          exact hpass.trans (leads_fireAt { s' with done := label :: s'.done } (s.now + ms))
      · exact .refl _
      · exact .refl _

/-! ## Deeds -/

/-- What can be done to a pool at work. -/
inductive Deed where
  | submit (label : String) (kind : TaskKind)
  | release (label : String)
  | runHandedBack (label : String)
  | shutdown
  | advance (ms : Nat)
  | drain (ms : Nat)

/-- A pool at work after a deed. -/
def after (s : Schedule) : Deed → Schedule
  | .submit label kind => (s.submit label kind).2
  | .release label => (s.release label).2
  | .runHandedBack label => (s.runHandedBack label).2
  | .shutdown => s.shutdown
  | .advance ms => s.advance ms
  | .drain ms => (s.drain ms).2

theorem leads_deed (s : Schedule) (d : Deed) : s.pool.Leads (s.after d).pool := by
  cases d with
  | submit label kind => exact s.leads_submit label kind
  | release label => exact s.leads_release label
  | runHandedBack label => exact s.leads_runHandedBack label
  | shutdown => exact s.leads_shutdown
  | advance ms => exact s.leads_advanceTo _
  | drain ms => exact s.leads_drain ms

/-- Moves lead wherever deeds lead. -/
theorem leads_after (s : Schedule) (ds : List Deed) : s.pool.Leads (ds.foldl after s).pool := by
  induction ds generalizing s with
  | nil => exact .refl _
  | cons d ds ih => exact (s.leads_deed d).trans (ih _)

/-- The books of a pool at work agree with the roll, whatever is done to it. -/
theorem staffed_after (config : PoolConfig) (ds : List Deed) :
    (ds.foldl after (ofConfig config)).pool.Staffed := by
  obtain ⟨ms, hpool⟩ := leads_after (ofConfig config) ds
  rw [hpool]
  exact (staffed_new config).run ms

end Schedule

end WebServer
