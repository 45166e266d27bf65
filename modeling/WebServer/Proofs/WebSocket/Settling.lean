import WebServer.Proofs.Link.Horizon
import WebServer.Proofs.WebSocket.Session

/-!
# WebServer.Proofs.WebSocket.Settling

Sessions come to an end. On a client that takes everything in the end, or breaks, no write
waits for ever, so every hook ends (`runHook_settles`), and what a session does between two
frames does not depend on the horizon, once that is late enough. So reading ends, unless the
client stays silent on an open connection (`readAll_settles`).
-/

namespace WebServer

namespace WebSocket

open Filter Outbox

/-! ## The sending side -/

namespace Outbox

variable {o o' : Outbox} {h : Nat}

/-- The sending side, when waiting is given up for good at another time. -/
def withHorizon (o : Outbox) (h : Nat) : Outbox := { o with link := o.link.withHorizon h }

theorem flows_withHorizon : Flows (o.withHorizon h) ↔ Flows o :=
  ⟨fun ho => ⟨ho.stall, ho.writer⟩, fun ho => ⟨ho.stall, ho.writer⟩⟩

theorem writeFrames_withHorizon (o : Outbox) (h : Nat) (fs : List Frame) :
    (o.withHorizon h).writeFrames fs = (o.writeFrames fs).withHorizon h := by
  induction fs generalizing o with
  | nil => rfl
  | cons f fs ih =>
      have hsink : (o.withHorizon h).link.sink = o.link.sink := rfl
      rw [writeFrames_cons, writeFrames_cons, hsink]
      split
      · next sink _ =>
          dsimp only
          split
          · rfl
          · exact ih { o with link := { o.link with
              sink, sock := o.link.sock.touch o.link.now } }
      · rfl
      · rfl

theorem flush_withHorizon (o : Outbox) (h : Nat) :
    (o.withHorizon h).flush = o.flush.withHorizon h := by
  have hwriter : (o.withHorizon h).writer = o.writer := rfl
  unfold flush
  rw [hwriter]
  split
  · exact writeFrames_withHorizon o h o.queue
  · rfl

theorem noticeClose_withHorizon (o : Outbox) (h : Nat) :
    (o.withHorizon h).noticeClose = o.noticeClose.withHorizon h := by
  have hnotice : ((o.withHorizon h).writer = .ready && (o.withHorizon h).link.sock.isClosed) =
      (o.writer = .ready && o.link.sock.isClosed) := rfl
  unfold noticeClose
  split
  · next hc => rw [if_pos (hnotice ▸ hc)]; rfl
  · next hc => rw [if_neg (hnotice ▸ hc)]

/-- Sending does not wait. -/
theorem Flows.post_withHorizon (ho : Flows o) (f : Frame) (h : Nat) :
    (o.withHorizon h).post f = ((o.post f).1, (o.post f).2.withHorizon h) := by
  have hturn : (if (o.withHorizon h).queue.length < capacity then o.withHorizon h
      else (o.withHorizon h).flush) =
        (if o.queue.length < capacity then o else o.flush).withHorizon h := by
    rw [flush_withHorizon]
    exact (apply_ite (·.withHorizon h) (o.queue.length < capacity) o o.flush).symm
  have hends := (ho.post f).1
  unfold Outbox.post at hends ⊢
  rw [hturn]
  generalize (if o.queue.length < capacity then o else o.flush) = o₁ at hends ⊢
  dsimp only at hends ⊢
  by_cases hended : o₁.writer = .ended
  · have hended' : (o₁.withHorizon h).writer = .ended := hended
    rw [if_pos hended, if_pos hended']
  · have hended' : (o₁.withHorizon h).writer ≠ .ended := hended
    rw [if_neg hended] at hends
    rw [if_neg hended, if_neg hended']
    by_cases hroom : o₁.queue.length < capacity
    · have hroom' : (o₁.withHorizon h).queue.length < capacity := hroom
      rw [if_pos hroom, if_pos hroom']
      rfl
    · rw [if_neg hroom] at hends
      exact absurd rfl hends

theorem Flows.send_withHorizon (ho : Flows o) (f : Frame) (h : Nat) :
    (o.withHorizon h).send f = ((o.send f).1, (o.send f).2.withHorizon h) := by
  have hclosing : (o.withHorizon h).closing = o.closing := rfl
  unfold send
  rw [hclosing]
  split
  · rfl
  · exact ho.post_withHorizon f h

theorem Flows.send_ne_stuck (ho : Flows o) (f : Frame) : (o.send f).1 ≠ .stuck := by
  unfold send
  split
  · simp
  · exact (ho.post f).1

theorem Flows.close_withHorizon (ho : Flows o) (code : UInt16) (reason : String) (h : Nat) :
    (o.withHorizon h).close code reason =
      ((o.close code reason).1, (o.close code reason).2.withHorizon h) := by
  have hclosing : (o.withHorizon h).closing = o.closing := rfl
  have hflows : Flows { o with closing := true } := ⟨ho.stall, ho.writer⟩
  unfold close
  rw [hclosing]
  split
  · rfl
  · exact hflows.post_withHorizon _ h

theorem Flows.close_ne_stuck (ho : Flows o) (code : UInt16) (reason : String) :
    (o.close code reason).1 ≠ .stuck := by
  have hflows : Flows { o with closing := true } := ⟨ho.stall, ho.writer⟩
  unfold close
  split
  · simp
  · exact (hflows.post _).1

/-- Waiting for a time comes to an end. -/
theorem sleep_settles (o : Outbox) (ms : Nat) :
    ∃ o' : Outbox, ∀ᶠ h in atTop, (o.withHorizon h).sleep ms = (true, o'.withHorizon h) := by
  by_cases hms : ms = 0
  · refine ⟨o, .of_forall fun h => ?_⟩
    rw [sleep, if_pos hms]
  · let never : Link → Option Unit := fun _ => none
    have hnever : ∀ l h, never (l.withHorizon h) = never l := fun _ _ => rfl
    obtain ⟨r, l', hne, hawait⟩ :=
      Link.await_some_withHorizon hnever (o.flush.link.now + ms) o.flush.link
    have htimeout : r = .timeout := by
      obtain ⟨h, hh⟩ := hawait.exists
      cases r with
      | ready a =>
          have hnone := Link.await_ready hh
          contradiction
      | timeout => rfl
      | stuck => exact absurd rfl hne
    refine ⟨{ o.flush with link := l' }.noticeClose, ?_⟩
    filter_upwards [hawait] with h hawait
    have hlink : (o.flush.withHorizon h).link = o.flush.link.withHorizon h := rfl
    have hnow : (o.flush.link.withHorizon h).now = o.flush.link.now := rfl
    rw [sleep, if_neg hms]
    dsimp only
    rw [flush_withHorizon, hlink, hnow, hawait, htimeout]
    exact congrArg (Prod.mk true) (noticeClose_withHorizon { o.flush with link := l' } h)

end Outbox

namespace Session

variable {cfg : SessionConfig} {o : Outbox} {s : Session} {f : Frame} {h : Nat}

/-! ## Hooks -/

theorem ofSent_withHorizon (sent : Sent) (o : Outbox) (h : Nat) :
    ofSent (sent, o.withHorizon h) =
      ((ofSent (sent, o)).1, (ofSent (sent, o)).2.withHorizon h) := by
  cases sent <;> rfl

theorem ofSent_eq_some {r : Sent × Outbox} (hr : r.1 ≠ .stuck) :
    ∃ answer, (ofSent r).1 = some answer := by
  obtain ⟨sent, o⟩ := r
  cases sent with
  | ok => exact ⟨true, rfl⟩
  | failed => exact ⟨false, rfl⟩
  | stuck => exact absurd rfl hr

/-- Every action is answered. -/
theorem perform_settles (ho : Flows o) (a : Action) :
    ∃ (answer : Bool) (o' : Outbox), ∀ᶠ h in atTop,
      perform (o.withHorizon h) a = (some answer, o'.withHorizon h) := by
  have hsend : ∀ f : Frame, ∃ (answer : Bool) (o' : Outbox), ∀ᶠ h in atTop,
      ofSent ((o.withHorizon h).send f) = (some answer, o'.withHorizon h) := by
    intro f
    obtain ⟨answer, hanswer⟩ := ofSent_eq_some (ho.send_ne_stuck f)
    refine ⟨answer, (ofSent (o.send f)).2, .of_forall fun h => ?_⟩
    rw [ho.send_withHorizon, ofSent_withHorizon, Prod.mk.eta, hanswer]
  cases a with
  | text => exact hsend _
  | binary => exact hsend _
  | ping => exact hsend _
  | close code reason =>
      obtain ⟨answer, hanswer⟩ := ofSent_eq_some (ho.close_ne_stuck code reason)
      refine ⟨answer, (ofSent (o.close code reason)).2, .of_forall fun h => ?_⟩
      rw [perform, ho.close_withHorizon, ofSent_withHorizon, Prod.mk.eta, hanswer]
  | delay ms =>
      obtain ⟨o', hsleep⟩ := sleep_settles o ms
      refine ⟨true, o', ?_⟩
      filter_upwards [hsleep] with h hsleep
      rw [perform, hsleep]
  | isClosing =>
      exact ⟨o.closing, { o with link := o.link.log (.askedClosing o.closing) },
        .of_forall fun h => rfl⟩

/-- What an action leaves flows as before. -/
theorem flows_perform (ho : Flows o) (a : Action) : Flows (perform o a).2 :=
  (course_perform (P := fun _ => True) (a := a) fun _ _ => trivial).flows ho

/-- **Every hook ends.** -/
theorem runHook_settles (ho : Flows o) (p : Program) :
    ∃ (how : HookEnd) (o' : Outbox), Flows o' ∧ ∀ᶠ h in atTop,
      runHook p (o.withHorizon h) = (some how, o'.withHorizon h) := by
  induction p generalizing o with
  | finish how => exact ⟨how, o, ho, .of_forall fun h => rfl⟩
  | perform a next ih =>
      obtain ⟨answer, o₁, hperform⟩ := perform_settles ho a
      have ho₁ : Flows o₁ := by
        obtain ⟨h, hh⟩ := hperform.exists
        have hflows := flows_perform ((flows_withHorizon (h := h)).2 ho) a
        rw [hh] at hflows
        exact flows_withHorizon.1 hflows
      obtain ⟨how, o', ho', hnext⟩ := ih answer ho₁
      refine ⟨how, o', ho', ?_⟩
      filter_upwards [hperform, hnext] with h hperform hnext
      rw [runHook, hperform]
      exact hnext

/-! ## Between two frames -/

/-- The session, when waiting is given up for good at another time. -/
def withHorizon (s : Session) (h : Nat) : Session :=
  { s with outbox := s.outbox.withHorizon h }

theorem size_withHorizon (s : Session) (h : Nat) : (s.withHorizon h).size = s.size := rfl

theorem log_withHorizon (cfg : SessionConfig) (o : Outbox) (e : Event) (h : Nat) :
    log cfg (o.withHorizon h) e = (log cfg o e).withHorizon h := by
  unfold log
  split
  · rfl
  · rfl

theorem fail_settles (ho : Flows s.outbox) (code : UInt16) :
    ∃ (flush : Bool) (s' : Session), ∀ h,
      (s.withHorizon h).fail code = (.ended code flush, s'.withHorizon h) := by
  have hclose := fun h => ho.close_withHorizon code "" h
  have hne := ho.close_ne_stuck code ""
  generalize s.outbox.close code "" = r at hclose hne
  obtain ⟨sent, o⟩ := r
  have hwith : ∀ h, (s.withHorizon h).outbox = s.outbox.withHorizon h := fun _ => rfl
  cases sent with
  | ok =>
      refine ⟨true, { s with outbox := o }, fun h => ?_⟩
      rw [fail, hwith, hclose]
      rfl
  | failed =>
      refine ⟨false, { s with outbox := o }, fun h => ?_⟩
      rw [fail, hwith, hclose]
      rfl
  | stuck => exact absurd rfl hne

theorem sendControl_settles (ho : Flows s.outbox) (f : Frame) :
    ∃ s' : Session, ∀ h, (s.withHorizon h).sendControl f = (none, s'.withHorizon h) := by
  have hpost := fun h => ho.post_withHorizon f h
  have hne := (ho.post f).1
  generalize s.outbox.post f = r at hpost hne
  obtain ⟨sent, o⟩ := r
  have hwith : ∀ h, (s.withHorizon h).outbox = s.outbox.withHorizon h := fun _ => rfl
  cases sent with
  | ok | failed =>
      refine ⟨{ s with outbox := o }, fun h => ?_⟩
      rw [sendControl, hwith, hpost]
      rfl
  | stuck => exact absurd rfl hne

theorem onClose_settles (ho : Flows s.outbox) (f : Frame) :
    ∃ (code : UInt16) (s' : Session), ∀ h,
      (s.withHorizon h).onClose f = (.ended code true, s'.withHorizon h) := by
  by_cases hclosing : s.outbox.closing = true
  · refine ⟨f.closeCode?.getD CloseCode.noStatus, s, fun h => ?_⟩
    have hclosing' : (s.withHorizon h).outbox.closing = true := hclosing
    rw [onClose]
    dsimp only
    rw [if_pos hclosing']
  · let s₁ : Session := { s with outbox := { s.outbox with closing := true } }
    obtain ⟨s', hsend⟩ := sendControl_settles (s := s₁) ⟨ho.stall, ho.writer⟩ (closeReply f)
    refine ⟨f.closeCode?.getD CloseCode.noStatus, s', fun h => ?_⟩
    have hclosing' : ¬ (s.withHorizon h).outbox.closing = true := hclosing
    have hwith : { s.withHorizon h with
        outbox := { (s.withHorizon h).outbox with closing := true } } = s₁.withHorizon h := rfl
    rw [onClose]
    dsimp only
    rw [if_neg hclosing', hwith, hsend]

theorem handOver_settles (cfg : SessionConfig) (ho : Flows s.outbox) (d : Delivery) :
    ∃ (how : HookEnd) (s' : Session), Flows s'.outbox ∧ ∀ᶠ h in atTop,
      handOver cfg (s.withHorizon h) d = (some how, s'.withHorizon h) := by
  have hlog : Flows (log cfg s.outbox (.delivered d)) :=
    (course_log (P := fun _ => True) rfl).flows ho
  obtain ⟨how, o, ho', hhook⟩ := runHook_settles hlog (cfg.handler.onDelivery s.earlier d)
  refine ⟨how, { s with outbox := o, earlier := d :: s.earlier }, ho', ?_⟩
  filter_upwards [hhook] with h hhook
  have hwith : (s.withHorizon h).outbox = s.outbox.withHorizon h := rfl
  have hearlier : (s.withHorizon h).earlier = s.earlier := rfl
  rw [handOver]
  dsimp only
  rw [hwith, hearlier, log_withHorizon, hhook]
  rfl

theorem failDelivery_settles (ho : Flows s.outbox) (code : UInt16) :
    ∃ (flush : Bool) (s' : Session), ∀ h,
      (s.withHorizon h).failDelivery code = (some (.ended code flush), s'.withHorizon h) := by
  obtain ⟨flush, s', hfail⟩ := fail_settles (s := s.endCycle) ⟨ho.stall, ho.writer⟩ code
  refine ⟨flush, s', fun h => ?_⟩
  have hwith : (s.withHorizon h).endCycle = s.endCycle.withHorizon h := rfl
  rw [failDelivery, hwith, hfail]

theorem afterDelivery_settles (ho : Flows s.outbox) (how : HookEnd) :
    ∃ (r : Option ReadStop) (s' : Session), r ≠ some .stuck ∧ ∀ h,
      afterDelivery (some how, s.withHorizon h) = (r, s'.withHorizon h) := by
  obtain ⟨flush, s', hfail⟩ := failDelivery_settles ho CloseCode.internalError
  cases how with
  | returned => exact ⟨none, s.endCycle, by simp, fun h => rfl⟩
  | failed | panicked => exact ⟨_, s', by simp, hfail⟩

theorem claim_withHorizon (cfg : SessionConfig) (s : Session) (f : Frame) (h : Nat) :
    (s.withHorizon h).claim cfg f =
      (s.claim cfg f).map fun given => (given.1, given.2.withHorizon h) := by
  have hsock : (s.withHorizon h).outbox.link.sock = s.outbox.link.sock := rfl
  unfold claim Link.onSock
  dsimp only
  rw [hsock]
  generalize s.outbox.link.sock.beginCycle = r
  obtain ⟨ok, sock⟩ := r
  cases ok <;> rfl

theorem onData_settles (cfg : SessionConfig) (ho : Flows s.outbox) (f : Frame) :
    ∃ (r : Option ReadStop) (s' : Session), r ≠ some .stuck ∧ ∀ᶠ h in atTop,
      onData cfg (s.withHorizon h) f = (r, s'.withHorizon h) := by
  have hclaim := claim_withHorizon cfg s f
  unfold onData
  cases hs : s.claim cfg f with
  | none =>
      refine ⟨some (.ended CloseCode.goingAway false), s, by simp, .of_forall fun h => ?_⟩
      rw [hclaim, hs]
      rfl
  | some given =>
      obtain ⟨given, s₁⟩ := given
      have ho₁ : Flows s₁.outbox :=
        (claim_eq_some (P := fun _ => True) hs).2.2.2.course.flows ho
      match given with
      | .error code =>
          obtain ⟨flush, s', hfail⟩ := failDelivery_settles ho₁ code
          refine ⟨some (.ended code flush), s', by simp, .of_forall fun h => ?_⟩
          rw [hclaim, hs]
          exact hfail h
      | .ok none =>
          refine ⟨none, s₁.endCycle, by simp, .of_forall fun h => ?_⟩
          rw [hclaim, hs]
          rfl
      | .ok (some d) =>
          obtain ⟨how, s₂, ho₂, hhand⟩ := handOver_settles cfg ho₁ d
          obtain ⟨r, s', hr, hafter⟩ := afterDelivery_settles ho₂ how
          refine ⟨r, s', hr, ?_⟩
          filter_upwards [hhand] with h hhand
          rw [hclaim, hs]
          dsimp only [Option.map_some]
          rw [hhand, hafter]

theorem onFrame_settles (ho : Flows s.outbox) (f : Frame) :
    ∃ (r : Option ReadStop) (s' : Session), r ≠ some .stuck ∧ ∀ᶠ h in atTop,
      onFrame cfg (s.withHorizon h) f = (r, s'.withHorizon h) := by
  unfold onFrame
  by_cases hmasked : f.masked = true
  · simp only [hmasked, Bool.not_true, Bool.false_eq_true, if_false]
    obtain ⟨r, s', hr, hdata⟩ := onData_settles cfg ho f
    cases f.opcode with
    | ping =>
        obtain ⟨s', hsend⟩ := sendControl_settles ho (.pong f.payload)
        exact ⟨none, s', by simp, .of_forall hsend⟩
    | pong => exact ⟨none, s, by simp, .of_forall fun h => rfl⟩
    | close =>
        obtain ⟨code, s', hclose⟩ := onClose_settles ho f
        refine ⟨some (.ended code true), s', by simp, .of_forall fun h => ?_⟩
        rw [hclose]
    | text | binary | continuation => exact ⟨r, s', hr, hdata⟩
  · simp only [hmasked, Bool.not_false, if_true]
    obtain ⟨flush, s', hfail⟩ := fail_settles ho FrameError.unmasked.closeCode
    refine ⟨some (.ended FrameError.unmasked.closeCode flush), s', by simp,
      .of_forall fun h => ?_⟩
    rw [hfail]

/-! ## Reading -/

/-- The session waits for a client that stays silent on an open connection. -/
structure IsIdle (cfg : SessionConfig) (s : Session) : Prop where
  parse : Frame.parse s.buffer cfg.limit = .ok none
  not_closing : s.outbox.closing = false
  inbox : s.outbox.link.inbox = []
  tail : s.outbox.link.tail = .quiet
  timeline : s.outbox.link.timeline = []
  not_closed : s.outbox.link.sock.isClosed = false

theorem beforeRead_withHorizon (o : Outbox) (h : Nat) :
    beforeRead (o.withHorizon h) = (beforeRead o).withHorizon h := by
  have harrival : ((o.withHorizon h).link.arrivalOr fun l => l.sock.isClosed) =
      o.link.arrivalOr fun l => l.sock.isClosed := Link.arrivalOr_withHorizon (fun _ _ => rfl) _ _
  unfold beforeRead
  rw [harrival, flush_withHorizon]
  split
  · rfl
  · rfl

theorem closing_beforeRead (o : Outbox) : (beforeRead o).closing = o.closing := by
  unfold beforeRead
  split
  · rfl
  · exact (turn_flush o).closing

/-- What reading from the link comes to, waiting for bytes comes to. -/
theorem receive_withHorizon {deadline : Option Nat} {r : Link.Received} {l : Link}
    (hl : ((beforeRead o).link.withHorizon h).receive deadline (fun l => l.sock.isClosed) =
      (r, l)) :
    (o.withHorizon h).receive deadline = (r, { beforeRead o with link := l }.noticeClose) := by
  have hlink : ((beforeRead o).withHorizon h).link = (beforeRead o).link.withHorizon h := rfl
  rw [receive_eq, beforeRead_withHorizon, hlink, hl]
  rfl

/-- How long it is waited for bytes. -/
def deadline (cfg : SessionConfig) (s : Session) : Option Nat :=
  if s.outbox.closing then some (s.outbox.link.now + cfg.patience) else none

/-- What follows when it has been waited for bytes. -/
def afterRead (s : Session) : Link.Received × Outbox → Option ReadStop × Session
  | (.arrived (.bytes bs), outbox) => (none, { s with outbox, buffer := s.buffer ++ bs })
  | (.stuck, outbox) => (some .stuck, { s with outbox })
  | (_, outbox) => (some (.ended CloseCode.goingAway false), { s with outbox })

theorem readMore_eq (cfg : SessionConfig) (s : Session) :
    readMore cfg s = s.afterRead (s.outbox.receive (s.deadline cfg)) := rfl

theorem afterRead_withHorizon (s : Session) (r : Link.Received) (o : Outbox) (h : Nat) :
    (s.withHorizon h).afterRead (r, o.withHorizon h) =
      ((s.afterRead (r, o)).1, (s.afterRead (r, o)).2.withHorizon h) := by
  cases r with
  | arrived a => cases a <;> rfl
  | interrupted | timeout | stuck => rfl

theorem afterRead_ne_stuck {r : Link.Received} (hr : r ≠ .stuck) :
    (s.afterRead (r, o)).1 ≠ some .stuck := by
  cases r with
  | arrived a => cases a <;> simp [afterRead]
  | interrupted | timeout => simp [afterRead]
  | stuck => exact absurd rfl hr

/-- A read from the link that ends, ends the waiting. -/
theorem readMore_settles_of_receive {r : Link.Received} {l : Link} (hr : r ≠ .stuck)
    (hl : ∀ᶠ h in atTop, ((beforeRead s.outbox).link.withHorizon h).receive (s.deadline cfg)
      (fun l => l.sock.isClosed) = (r, l.withHorizon h)) :
    ∃ (r : Option ReadStop) (s' : Session), r ≠ some .stuck ∧ ∀ᶠ h in atTop,
      readMore cfg (s.withHorizon h) = (r, s'.withHorizon h) := by
  let o : Outbox := { beforeRead s.outbox with link := l }
  refine ⟨(s.afterRead (r, o.noticeClose)).1, (s.afterRead (r, o.noticeClose)).2,
    afterRead_ne_stuck hr, ?_⟩
  filter_upwards [hl] with h hl
  have hdeadline : (s.withHorizon h).deadline cfg = s.deadline cfg := rfl
  have houtbox : (s.withHorizon h).outbox = s.outbox.withHorizon h := rfl
  have hlink : { beforeRead s.outbox with link := l.withHorizon h } = o.withHorizon h := rfl
  rw [readMore_eq, hdeadline, houtbox, receive_withHorizon hl, hlink, noticeClose_withHorizon,
    afterRead_withHorizon]

/-- Reading more comes to an end, or the client stays silent. -/
theorem readMore_settles (hparse : Frame.parse s.buffer cfg.limit = .ok none) :
    (∃ (r : Option ReadStop) (s' : Session), r ≠ some .stuck ∧ ∀ᶠ h in atTop,
      readMore cfg (s.withHorizon h) = (r, s'.withHorizon h)) ∨
    ∀ᶠ h in atTop, ∃ s', readMore cfg (s.withHorizon h) = (some .stuck, s') ∧ IsIdle cfg s' := by
  let isClosed (l : Link) : Bool := l.sock.isClosed
  have hi : ∀ l h, isClosed (l.withHorizon h) = isClosed l := fun _ _ => rfl
  cases hclosing : s.outbox.closing with
  | true =>
      obtain ⟨r, l, hr, hreceive⟩ := Link.receive_some_withHorizon hi
        (s.outbox.link.now + cfg.patience) (beforeRead s.outbox).link
      refine .inl (readMore_settles_of_receive (l := l) hr ?_)
      rw [deadline, if_pos hclosing]
      exact hreceive
  | false =>
      have hdeadline : s.deadline cfg = none := by simp [deadline, hclosing]
      obtain ⟨r, l, hr, hreceive⟩ | ⟨l, hopen, hinbox, htail, htimeline, hreceive⟩ :=
        Link.receive_none_withHorizon hi (beforeRead s.outbox).link
      · refine .inl (readMore_settles_of_receive (l := l) hr ?_)
        rw [hdeadline]
        exact hreceive
      · refine .inr ?_
        filter_upwards [hreceive] with h hreceive
        let o : Outbox := { beforeRead s.outbox with link := { l.withHorizon h with now := h } }
        have hsock : o.link.sock.isClosed = false := hopen
        have hnotice : o.noticeClose = o := by
          unfold noticeClose
          rw [hsock, Bool.and_false]
          rfl
        have hdeadline' : (s.withHorizon h).deadline cfg = none := hdeadline
        have houtbox : (s.withHorizon h).outbox = s.outbox.withHorizon h := rfl
        refine ⟨{ s with outbox := o }, ?_, hparse, ?_, hinbox, htail, htimeline, hopen⟩
        · rw [readMore_eq, hdeadline', houtbox, receive_withHorizon hreceive, hnotice]
          rfl
        · exact (closing_beforeRead s.outbox).trans hclosing

/-- A step comes to an end, or the client stays silent. -/
theorem step_settles (cfg : SessionConfig) (ho : Flows s.outbox) :
    (∃ (r : Option ReadStop) (s' : Session), r ≠ some .stuck ∧ ∀ᶠ h in atTop,
      step cfg (s.withHorizon h) = (r, s'.withHorizon h)) ∨
    ∀ᶠ h in atTop, ∃ s', step cfg (s.withHorizon h) = (some .stuck, s') ∧ IsIdle cfg s' := by
  have hbuffer : ∀ h, (s.withHorizon h).buffer = s.buffer := fun _ => rfl
  cases hparse : Frame.parse s.buffer cfg.limit with
  | error e =>
      obtain ⟨flush, s', hfail⟩ := fail_settles ho e.closeCode
      refine .inl ⟨some (.ended e.closeCode flush), s', by simp, .of_forall fun h => ?_⟩
      rw [step, hbuffer, hparse]
      dsimp only
      rw [hfail]
  | ok read =>
      cases read with
      | none =>
          have hstep : ∀ h, step cfg (s.withHorizon h) = readMore cfg (s.withHorizon h) :=
            fun h => by rw [step, hbuffer, hparse]
          simp only [hstep]
          exact readMore_settles hparse
      | some read =>
          obtain ⟨f, n⟩ := read
          have hstep : ∀ h, step cfg (s.withHorizon h) =
              onFrame cfg ((s.consume n).withHorizon h) f := fun h => by
            rw [step, hbuffer, hparse]
            rfl
          simp only [hstep]
          exact .inl (onFrame_settles (s := s.consume n) ⟨ho.stall, ho.writer⟩ f)

/-- **Reading comes to an end, or the client stays silent.** -/
theorem readAll_settles (cfg : SessionConfig) (ho : Flows s.outbox) :
    (∃ (code : UInt16) (flush : Bool) (s' : Session), Flows s'.outbox ∧ ∀ᶠ h in atTop,
      readAll cfg (s.withHorizon h) = (.ended code flush, s'.withHorizon h)) ∨
    ∀ᶠ h in atTop, ∃ s', readAll cfg (s.withHorizon h) = (.stuck, s') ∧ IsIdle cfg s' := by
  induction hn : s.size using Nat.strongRecOn generalizing s with
  | ind n ih =>
      obtain ⟨r, s', hr, hstep⟩ | hidle := step_settles cfg ho
      · obtain ⟨h₀, hstep₀⟩ := hstep.exists
        have ho' : Flows s'.outbox := by
          obtain ⟨hgoes, _⟩ := goes_step (permits_true cfg.handler) (s.withHorizon h₀)
          rw [hstep₀] at hgoes
          obtain hgoes | ⟨d, s₁, _, hgoes⟩ := hgoes
          · exact flows_withHorizon.1 (hgoes.course.flows (flows_withHorizon.2 ho))
          · exact flows_withHorizon.1 (hgoes.course.flows (flows_withHorizon.2 ho))
        match r with
        | none =>
            have hlt := size_step hstep₀
            rw [size_withHorizon, size_withHorizon, hn] at hlt
            obtain ⟨code, flush, s'', hflows, hread⟩ | hidle := ih s'.size hlt ho' rfl
            · refine .inl ⟨code, flush, s'', hflows, ?_⟩
              filter_upwards [hstep, hread] with h hstep hread
              rw [readAll_eq, hstep]
              exact hread
            · refine .inr ?_
              filter_upwards [hstep, hidle] with h hstep hidle
              rw [readAll_eq, hstep]
              exact hidle
        | some .stuck => exact absurd rfl hr
        | some (.ended code flush) =>
            refine .inl ⟨code, flush, s', ho', ?_⟩
            filter_upwards [hstep] with h hstep
            rw [readAll_eq, hstep]
      · refine .inr ?_
        filter_upwards [hidle] with h hidle
        obtain ⟨s', hstep, hidle⟩ := hidle
        refine ⟨s', ?_, hidle⟩
        rw [readAll_eq, hstep]

end Session

end WebSocket

end WebServer
