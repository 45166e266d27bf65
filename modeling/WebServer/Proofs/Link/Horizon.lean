import Mathlib.Order.Filter.AtTopBot.Basic
import WebServer.Proofs.Link.Delivery

/-!
# WebServer.Proofs.Link.Horizon

Waiting on a link that is served for long enough. What waiting comes to does not depend on
the horizon, once that is late enough: a deadline comes (`await_some_withHorizon`), and
without one it is waited for ever only when the client is at its end
(`await_none_withHorizon`).
-/

namespace WebServer

open Filter

namespace Link

variable {α : Type} {ready : Link → Option α}

/-- The link, when waiting is given up for good at another time. -/
def withHorizon (l : Link) (h : Nat) : Link := { l with horizon := h }

theorem perform_withHorizon (l : Link) (a : Act) (h : Nat) :
    (l.withHorizon h).perform a = (l.perform a).withHorizon h := by
  cases a <;> rfl

/-- What happens next happens at any horizon that is not before. -/
theorem await_withHorizon_of_act {l : Link} {d : Option Nat} {t h : Nat} {act : Act}
    {rest : List (Nat × Act)} (hready : ready (l.withHorizon h) = none)
    (hl : l.timeline = (t, act) :: rest) (hd : isPast t d = false) (ht : t ≤ h) :
    (l.withHorizon h).await ready d =
      (({ l with now := t, timeline := rest }.perform act).withHorizon h).await ready d := by
  rw [← perform_withHorizon]
  exact await_of_act hready hl hd ht

/-- A deadline comes, unless what is waited for comes before. -/
theorem await_some_withHorizon (hready : ∀ l h, ready (l.withHorizon h) = ready l)
    (d : Nat) (l : Link) :
    ∃ (r : Wait α) (l' : Link), r ≠ .stuck ∧
      ∀ᶠ h in atTop, (l.withHorizon h).await ready (some d) = (r, l'.withHorizon h) := by
  induction htl : l.timeline generalizing l with
  | nil =>
      cases hr : ready l with
      | some a =>
          exact ⟨.ready a, l, by simp, .of_forall fun h => await_of_ready (by rw [hready, hr])⟩
      | none =>
          refine ⟨.timeout, { l with now := max l.now d }, by simp, ?_⟩
          filter_upwards [eventually_ge_atTop d] with h hd
          rw [await_of_giveUp (by rw [hready, hr]) (by simp [withHorizon, htl]), giveUp]
          exact if_pos hd
  | cons e rest ih =>
      obtain ⟨t, act⟩ := e
      cases hr : ready l with
      | some a =>
          exact ⟨.ready a, l, by simp, .of_forall fun h => await_of_ready (by rw [hready, hr])⟩
      | none =>
          rcases Nat.lt_or_ge t d with hlt | hge
          · obtain ⟨r, l', hne, hawait⟩ :=
              ih ({ l with now := t, timeline := rest }.perform act) (timeline_perform _ _)
            refine ⟨r, l', hne, ?_⟩
            filter_upwards [hawait, eventually_ge_atTop d] with h hawait hd
            rw [await_withHorizon_of_act (by rw [hready, hr]) htl (by simpa [isPast] using hlt)
              (by omega), hawait]
          · refine ⟨.timeout, { l with now := max l.now d }, by simp, ?_⟩
            filter_upwards [eventually_ge_atTop d] with h hd
            rw [await_of_giveUp (by rw [hready, hr])
              (by simp [withHorizon, htl, isPast, hge]), giveUp]
            exact if_pos hd

/-- It is waited for ever only when nothing more happens. -/
theorem await_none_withHorizon (hready : ∀ l h, ready (l.withHorizon h) = ready l) (l : Link) :
    (∃ (a : α) (l' : Link), ready l' = some a ∧
      ∀ᶠ h in atTop, (l.withHorizon h).await ready none = (.ready a, l'.withHorizon h)) ∨
    ∃ l' : Link, ready l' = none ∧ l'.timeline = [] ∧ ∀ᶠ h in atTop,
      (l.withHorizon h).await ready none = (.stuck, { l'.withHorizon h with now := h }) := by
  induction htl : l.timeline generalizing l with
  | nil =>
      cases hr : ready l with
      | some a =>
          exact .inl ⟨a, l, hr, .of_forall fun h => await_of_ready (by rw [hready, hr])⟩
      | none =>
          refine .inr ⟨l, hr, htl, .of_forall fun h => ?_⟩
          rw [await_of_giveUp (by rw [hready, hr]) (by simp [withHorizon, htl]), giveUp]
          rfl
  | cons e rest ih =>
      obtain ⟨t, act⟩ := e
      cases hr : ready l with
      | some a =>
          exact .inl ⟨a, l, hr, .of_forall fun h => await_of_ready (by rw [hready, hr])⟩
      | none =>
          have hact : ∀ h, t ≤ h → (l.withHorizon h).await ready none =
              (({ l with now := t, timeline := rest }.perform act).withHorizon h).await
                ready none := fun h ht =>
            await_withHorizon_of_act (by rw [hready, hr]) htl rfl ht
          obtain ⟨a, l', ha, hawait⟩ | ⟨l', hnone, hnil, hawait⟩ :=
            ih ({ l with now := t, timeline := rest }.perform act) (timeline_perform _ _)
          · refine .inl ⟨a, l', ha, ?_⟩
            filter_upwards [hawait, eventually_ge_atTop t] with h hawait ht
            rw [hact h ht, hawait]
          · refine .inr ⟨l', hnone, hnil, ?_⟩
            filter_upwards [hawait, eventually_ge_atTop t] with h hawait ht
            rw [hact h ht, hawait]

/-- Waiting that is not given up for good is given up at a deadline within the horizon, and so
at every later horizon. -/
theorem giveUp_withHorizon_of_ne_stuck {d : Option Nat} {l : Link} {h : Nat} (hh : l.horizon ≤ h)
    (hne : (l.giveUp (α := α) d).1 ≠ .stuck) :
    (∃ d' ≤ l.horizon, d = some d') ∧ (l.withHorizon h).giveUp (α := α) d =
      ((l.giveUp d).1, (l.giveUp (α := α) d).2.withHorizon h) := by
  cases d with
  | none => exact absurd rfl hne
  | some d =>
      by_cases hd : d ≤ l.horizon
      · have hd' : d ≤ (l.withHorizon h).horizon := Nat.le_trans hd hh
        refine ⟨⟨d, hd, rfl⟩, ?_⟩
        simp only [giveUp, if_pos hd, if_pos hd']
        rfl
      · exact absurd (by simp [giveUp, hd]) hne

/-- What has come to an end comes to the same end at every later horizon. -/
theorem await_withHorizon_of_ne_stuck (hready : ∀ l h, ready (l.withHorizon h) = ready l)
    {d : Option Nat} {l : Link} {h : Nat} (hh : l.horizon ≤ h)
    (hne : (l.await ready d).1 ≠ .stuck) :
    (l.withHorizon h).await ready d =
      ((l.await ready d).1, (l.await ready d).2.withHorizon h) := by
  fun_induction await ready d l with
  | case1 l a ha => exact await_of_ready (by rw [hready, ha])
  | case2 l hr hl =>
      rw [await_of_giveUp (by rw [hready, hr]) (by simp [withHorizon, hl])]
      exact (giveUp_withHorizon_of_ne_stuck hh hne).2
  | case3 l hr t act rest hl hpast =>
      obtain ⟨⟨d', hd', rfl⟩, heq⟩ := giveUp_withHorizon_of_ne_stuck hh hne
      have hlt : isPast t (some d') = true := by
        simp only [isPast, Bool.or_eq_true, decide_eq_true_eq] at hpast ⊢
        omega
      rw [await_of_giveUp (by rw [hready, hr]) (by simp [withHorizon, hl, hlt])]
      exact heq
  | case4 l hr t act rest hl hpast ih =>
      rw [Bool.or_eq_true, decide_eq_true_eq, not_or, Bool.not_eq_true] at hpast
      have hhorizon : ({ l with now := t, timeline := rest }.perform act).horizon = l.horizon := by
        cases act <;> rfl
      rw [await_withHorizon_of_act (by rw [hready, hr]) hl hpast.1 (by omega)]
      exact ih (by rw [hhorizon]; exact hh) hne

/-! ## Reading -/

variable {interrupt : Link → Bool}

theorem arrivalOr_withHorizon (hi : ∀ l h, interrupt (l.withHorizon h) = interrupt l) (l : Link)
    (h : Nat) : arrivalOr interrupt (l.withHorizon h) = arrivalOr interrupt l := by
  unfold arrivalOr
  rw [hi]
  rfl

/-- What has been read is read at every later horizon. -/
theorem receive_withHorizon_of_ne_stuck
    (hi : ∀ l h, interrupt (l.withHorizon h) = interrupt l) {d : Option Nat} {l : Link} {h : Nat}
    (hh : l.horizon ≤ h) (hne : (l.receive d interrupt).1 ≠ .stuck) :
    (l.withHorizon h).receive d interrupt =
      ((l.receive d interrupt).1, (l.receive d interrupt).2.withHorizon h) := by
  have hawait := await_withHorizon_of_ne_stuck (arrivalOr_withHorizon hi) (d := d) hh
  rw [receive, receive]
  rw [receive] at hne
  generalize l.await (arrivalOr interrupt) d = waited at hawait hne
  obtain ⟨w, l'⟩ := waited
  cases w with
  | ready a =>
      rw [hawait (by simp)]
      cases a with
      | none => rfl
      | some a => cases a <;> rfl
  | timeout => rw [hawait (by simp)]
  | stuck => exact absurd rfl hne

/-- What a read comes to is what its waiting comes to. -/
theorem receive_settles {deadline : Option Nat} {l l' : Link} {r : Wait (Option Arrival)}
    (hr : r ≠ .stuck)
    (hawait : ∀ᶠ h in atTop,
      (l.withHorizon h).await (arrivalOr interrupt) deadline = (r, l'.withHorizon h)) :
    ∃ (r : Received) (l' : Link), r ≠ .stuck ∧
      ∀ᶠ h in atTop, (l.withHorizon h).receive deadline interrupt = (r, l'.withHorizon h) := by
  cases r with
  | ready a =>
      cases a with
      | none =>
          refine ⟨.interrupted, l', by simp, ?_⟩
          filter_upwards [hawait] with h hawait
          rw [receive, hawait]
      | some a =>
          cases a with
          | bytes bs =>
              refine ⟨.arrived (.bytes bs), { l' with inbox := l'.inbox.drop bs.length },
                by simp, ?_⟩
              filter_upwards [hawait] with h hawait
              rw [receive, hawait]
              rfl
          | eof =>
              refine ⟨.arrived .eof, l', by simp, ?_⟩
              filter_upwards [hawait] with h hawait
              rw [receive, hawait]
          | reset =>
              refine ⟨.arrived .reset, l', by simp, ?_⟩
              filter_upwards [hawait] with h hawait
              rw [receive, hawait]
  | timeout =>
      refine ⟨.timeout, l', by simp, ?_⟩
      filter_upwards [hawait] with h hawait
      rw [receive, hawait]
  | stuck => exact absurd rfl hr

/-- A read with a deadline comes to an end. -/
theorem receive_some_withHorizon (hi : ∀ l h, interrupt (l.withHorizon h) = interrupt l)
    (d : Nat) (l : Link) :
    ∃ (r : Received) (l' : Link), r ≠ .stuck ∧
      ∀ᶠ h in atTop, (l.withHorizon h).receive (some d) interrupt = (r, l'.withHorizon h) := by
  obtain ⟨r, l', hr, hawait⟩ := await_some_withHorizon (arrivalOr_withHorizon hi) d l
  exact receive_settles hr hawait

/-- A read without a deadline comes to an end, or the client stays silent. -/
theorem receive_none_withHorizon (hi : ∀ l h, interrupt (l.withHorizon h) = interrupt l)
    (l : Link) :
    (∃ (r : Received) (l' : Link), r ≠ .stuck ∧
      ∀ᶠ h in atTop, (l.withHorizon h).receive none interrupt = (r, l'.withHorizon h)) ∨
    ∃ l' : Link, interrupt l' = false ∧ l'.inbox = [] ∧ l'.tail = .quiet ∧ l'.timeline = [] ∧
      ∀ᶠ h in atTop, (l.withHorizon h).receive none interrupt =
        (.stuck, { l'.withHorizon h with now := h }) := by
  obtain ⟨a, l', _, hawait⟩ | ⟨l', hnone, hnil, hawait⟩ :=
    await_none_withHorizon (arrivalOr_withHorizon hi) l
  · exact .inl (receive_settles (by simp) hawait)
  · have harrival : interrupt l' = false ∧ l'.inbox = [] ∧ l'.tail = .quiet := by
      unfold arrivalOr arrival? at hnone
      cases hint : interrupt l' with
      | true => simp [hint] at hnone
      | false =>
          cases hin : l'.inbox with
          | cons b bs => simp [hint, hin] at hnone
          | nil => cases htail : l'.tail <;> simp [hint, hin, htail] at hnone ⊢
    refine .inr ⟨l', harrival.1, harrival.2.1, harrival.2.2, hnil, ?_⟩
    filter_upwards [hawait] with h hawait
    rw [receive, hawait]

end Link

end WebServer
