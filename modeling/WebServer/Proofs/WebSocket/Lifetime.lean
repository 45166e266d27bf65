import WebServer.Proofs.WebSocket.Settling
import WebServer.SockTable

/-!
# WebServer.Proofs.WebSocket.Lifetime

Whole sessions. The hook for the opening is called first, the deliveries follow if it
returned, and the hook for the end is called last; none of these is called twice, and when
the session has come to its end the sock is closed.

Main statement: `run_brackets_hooks`.
-/

namespace WebServer

namespace WebSocket

open Filter Outbox

namespace Session

variable {P : Frame → Prop} {cfg : SessionConfig} {o o' : Outbox} {s s' : Session}

/-! ## Opening -/

/-- The session when its handler was told that it is open, and how that hook ended. -/
def opened (cfg : SessionConfig) (s : Session) : Option HookEnd × Session :=
  let (how, outbox) := runHook cfg.handler.onOpen (log cfg s.outbox .opened)
  (how, { s with outbox })

theorem openAndRead_eq (cfg : SessionConfig) (s : Session) :
    openAndRead cfg s =
      match opened cfg s with
      | (none, s) => (.stuck, s)
      | (some .returned, s) => readAll cfg s
      | (some _, s) => s.fail CloseCode.internalError := by
  unfold openAndRead opened
  dsimp only
  generalize runHook cfg.handler.onOpen (log cfg s.outbox .opened) = r
  obtain ⟨how, outbox⟩ := r
  match how with
  | none | some .returned | some .failed | some .panicked => rfl

theorem course_opened (hp : Permits P cfg.handler) (s : Session) :
    Course P s.outbox (recorded cfg [.opened]) (opened cfg s).2.outbox :=
  course_call rfl hp.handler.onOpen

/-- A delivery is handed over behind others: the session is open, and a step claims the
waiting sock for it. -/
structure HandsAfter (cfg : SessionConfig) (s : Session) (before : List Delivery)
    (d : Delivery) : Prop where
  opened : (opened cfg s).1 = some .returned
  step : ∃ s₁ s₂, Passes cfg (Session.opened cfg s).2 s₁ ∧
    s₁.outbox.link.calls =
      s.outbox.link.calls ++ recorded cfg (.opened :: before.map .delivered) ∧
    Hands cfg s₁ d s₂

theorem recorded_cons (cfg : SessionConfig) (e : Event) (es : List Event) :
    recorded cfg (e :: es) = recorded cfg [e] ++ recorded cfg es := recorded_append cfg [e] es

/-- A session opens, and then reads and hands over deliveries one by one. -/
theorem course_openAndRead (hp : Permits P cfg.handler) (s : Session) :
    ∃ ds, Course P s.outbox (recorded cfg (.opened :: ds.map .delivered))
        (openAndRead cfg s).2.outbox ∧
      ∀ before d after, ds = before ++ d :: after → HandsAfter cfg s before d := by
  have hopened := course_opened hp s
  have hnone : ∀ before (d : Delivery) after, [] ≠ before ++ d :: after := by simp
  rw [openAndRead_eq]
  generalize ho : opened cfg s = r at hopened
  obtain ⟨how, s₀⟩ := r
  match how with
  | none => exact ⟨[], hopened, fun before d after hds => absurd hds (hnone _ _ _)⟩
  | some .returned =>
      obtain ⟨ds, hgoes, hhands⟩ := goes_readAll hp s₀
      refine ⟨ds, ?_, fun before d after hds => ?_⟩
      · rw [recorded_cons]
        exact hopened.trans hgoes.course
      · obtain ⟨s₁, s₂, hpasses, hbefore, hd⟩ := hhands before d after hds
        have hcalls := (hopened.trans hbefore.course).calls
        rw [← recorded_append] at hcalls
        exact ⟨by rw [ho], s₁, s₂, by rw [ho]; exact hpasses, hcalls, hd⟩
  | some .failed | some .panicked =>
      refine ⟨[], ?_, fun before d after hds => absurd hds (hnone _ _ _)⟩
      have hfail : Goes P cfg s₀ (s₀.fail CloseCode.internalError).2 [] :=
        goes_fail (hp.close CloseCode.internalError rfl)
      have hcourse := hopened.trans hfail.course
      rwa [← recorded_append] at hcourse

/-! ## Ending -/

theorem finishWriter_link (o : Outbox) :
    (finishWriter o).2.link = { o.flush.link with sink := (finishWriter o).2.link.sink } := by
  unfold finishWriter
  dsimp only
  split <;> rfl

theorem becomes_finishWriter (o : Outbox) :
    o.link.sock.Becomes (finishWriter o).2.link.sock := by
  rw [finishWriter_link]
  exact (turn_flush o).becomes

theorem becomes_closeSock (o : Outbox) : o.link.sock.Becomes o.closeSock.link.sock :=
  o.link.becomes_closeSock

theorem calls_finishWriter (o : Outbox) : (finishWriter o).2.link.calls = o.link.calls := by
  rw [finishWriter_link]
  exact calls_move (P := fun _ => True) (.write (o := o))

theorem isClosed_closeSock (o : Outbox) : o.closeSock.link.sock.isClosed = true :=
  o.link.isClosed_closeSock

theorem isClosed_finishWriter (o : Outbox) :
    (finishWriter o).2.link.sock.isClosed = o.link.sock.isClosed := by
  rw [finishWriter_link]
  show decide (o.flush.link.sock.state = .closed) = decide (o.link.sock.state = .closed)
  rw [(turn_flush o).state]

theorem accepted_finishWriter (o : Outbox) : (finishWriter o).2.accepted = o.accepted := by
  have hflush := (turn_flush o).accepted
  unfold finishWriter
  dsimp only
  split <;> exact hflush

theorem accepted_sleep (o : Outbox) (ms : Nat) : (o.sleep ms).2.accepted = o.accepted := by
  have hnotice : ∀ o : Outbox, o.noticeClose.accepted = o.accepted := by
    intro o
    unfold noticeClose
    split <;> rfl
  have hflush := (turn_flush o).accepted
  unfold sleep
  split
  · rfl
  · dsimp only
    split
    · exact (hnotice _).trans hflush
    · exact hflush

/-- What ending the sending side leaves: no hook is called and no frame is accepted, nothing
happens to the sock but operations, and it is closed when the sending side has come to its end. -/
structure Released (o : Outbox) (r : Bool × Outbox) : Prop where
  calls : r.2.link.calls = o.link.calls
  accepted : r.2.accepted = o.accepted
  becomes : o.link.sock.Becomes r.2.link.sock
  closed : r.1 = true → r.2.link.sock.isClosed = true

theorem released_release (cfg : SessionConfig) (o : Outbox) (flush : Bool) :
    Released o (release cfg o flush) := by
  have hcalls := calls_finishWriter o
  have haccepted := accepted_finishWriter o
  have hbecomes := becomes_finishWriter o
  unfold release
  split
  · split
    · exact ⟨rfl, rfl, becomes_closeSock o, fun _ => isClosed_closeSock o⟩
    · split
      · next o₁ h =>
          rw [h] at hcalls haccepted hbecomes
          exact ⟨hcalls, haccepted, hbecomes.trans (becomes_closeSock o₁),
            fun _ => isClosed_closeSock o₁⟩
      · next o₁ h =>
          rw [h] at hcalls haccepted hbecomes
          have hsleep := course_sleep (P := fun _ => True) (o := o₁) cfg.patience
          have hquiet := hsleep.calls
          have hused := hbecomes.trans hsleep.becomes
          have hsame := accepted_sleep o₁ cfg.patience
          rw [List.append_nil] at hquiet
          split
          · next o₂ h₂ =>
              rw [h₂] at hquiet hsame hused
              exact ⟨hquiet.trans hcalls, hsame.trans haccepted,
                hused.trans (becomes_closeSock o₂), fun _ => isClosed_closeSock o₂⟩
          · next o₂ h₂ =>
              rw [h₂] at hquiet hsame hused
              exact ⟨hquiet.trans hcalls, hsame.trans haccepted, hused, fun h => by contradiction⟩
  · have hcalls' : (finishWriter o.closeSock).2.link.calls = o.link.calls :=
      calls_finishWriter o.closeSock
    have haccepted' : (finishWriter o.closeSock).2.accepted = o.accepted :=
      accepted_finishWriter o.closeSock
    have hbecomes' := (becomes_closeSock o).trans (becomes_finishWriter o.closeSock)
    have hclosed := (isClosed_finishWriter o.closeSock).trans (isClosed_closeSock o)
    split
    · next o₁ h =>
        rw [h] at hcalls' haccepted' hbecomes' hclosed
        exact ⟨hcalls', haccepted', hbecomes', fun _ => hclosed⟩
    · next o₁ h =>
        rw [h] at hcalls' haccepted' hbecomes'
        exact ⟨(Link.calls_await _ _ _).trans hcalls', haccepted',
          hbecomes'.trans (Link.becomes_await _ _ _), fun h => by contradiction⟩

/-- The handler has the last word, and then the sending side is ended. -/
theorem course_finish (hp : Permits P cfg.handler) (s : Session) (code : UInt16) (flush : Bool) :
    ∃ o, Course P s.outbox (recorded cfg [.ended code s.outbox.closing]) o ∧
      (finish cfg s code flush = release cfg o flush ∨
        finish cfg s code flush = (false, (finishWriter o).2)) := by
  refine ⟨_, course_call rfl (hp.handler.onClose code), ?_⟩
  unfold finish
  dsimp only
  split
  · next o h => rw [h]; exact .inl rfl
  · next o h => rw [h]; exact .inl rfl
  · next o h => rw [h]; exact .inr rfl
  · next o h => rw [h]; exact .inr rfl

/-- The end of a session is recorded, and nothing else. -/
theorem calls_finish (cfg : SessionConfig) (s : Session) (code : UInt16) (flush : Bool) :
    (finish cfg s code flush).2.link.calls =
      s.outbox.link.calls ++ recorded cfg [.ended code s.outbox.closing] := by
  obtain ⟨o, hfinish, heq⟩ := course_finish (permits_true cfg.handler) s code flush
  rw [← hfinish.calls]
  rcases heq with heq | heq
  · rw [heq]
    exact (released_release cfg o flush).calls
  · rw [heq]
    exact calls_finishWriter o

/-- Nothing happens to the sock at the end but operations, and a session that has come to its
end has closed it. -/
theorem sock_finish (cfg : SessionConfig) (s : Session) (code : UInt16) (flush : Bool) :
    s.outbox.link.sock.Becomes (finish cfg s code flush).2.link.sock ∧
      ((finish cfg s code flush).1 = true →
        (finish cfg s code flush).2.link.sock.isClosed = true) := by
  obtain ⟨o, hfinish, heq⟩ := course_finish (permits_true cfg.handler) s code flush
  rcases heq with heq | heq
  · have hreleased := released_release cfg o flush
    rw [heq]
    exact ⟨hfinish.becomes.trans hreleased.becomes, hreleased.closed⟩
  · rw [heq]
    exact ⟨hfinish.becomes.trans (becomes_finishWriter o), fun hdone => by contradiction⟩

/-! ## Coming to an end -/

/-- A hook ends in a way in which its program ends. -/
theorem ends_of_runHook {Q : HookEnd → Prop} {p : Program} {how : HookEnd} (h : p.Ends Q)
    (hrun : (runHook p o).1 = some how) : Q how := by
  induction p generalizing o with
  | finish how' =>
      obtain rfl := Option.some.inj hrun
      exact h
  | perform a next ih =>
      rw [runHook] at hrun
      split at hrun
      · next answer o₁ _ => exact ih answer (h answer) hrun
      · contradiction

theorem finishWriter_of_flows (ho : Flows o) : (finishWriter o).1 = true := by
  have hflush := (ho.turn (turn_flush o)).writer
  unfold finishWriter
  dsimp only
  split
  · rfl
  · rfl
  · next h => exact absurd h hflush

/-- A writer that does not wait for ever comes to its end. -/
theorem release_of_flows (cfg : SessionConfig) (ho : Flows o) (flush : Bool) :
    (release cfg o flush).1 = true := by
  unfold release
  split
  · split
    · rfl
    · have hwriter := finishWriter_of_flows ho
      split
      · rfl
      · next h =>
          rw [h] at hwriter
          contradiction
  · have hwriter := finishWriter_of_flows (o := o.closeSock) ⟨ho.stall, ho.writer⟩
    split
    · rfl
    · next h =>
        rw [h] at hwriter
        contradiction

theorem finish_settles {code : UInt16} (ho : Flows s.outbox)
    (hclose : (cfg.handler.onClose code).Ends (· ≠ .panicked)) (flush : Bool) :
    ∀ᶠ h in atTop, (finish cfg (s.withHorizon h) code flush).1 = true := by
  have hlog : Flows (log cfg s.outbox (.ended code s.outbox.closing)) :=
    (course_log (P := fun _ => True) rfl).flows ho
  obtain ⟨how, o, ho', hhook⟩ := runHook_settles hlog (cfg.handler.onClose code)
  filter_upwards [hhook] with h hhook
  have houtbox : (s.withHorizon h).outbox = s.outbox.withHorizon h := rfl
  have hclosing : (s.outbox.withHorizon h).closing = s.outbox.closing := rfl
  have hne := ends_of_runHook hclose (congrArg Prod.fst hhook)
  rw [finish, houtbox, hclosing, log_withHorizon, hhook]
  match how with
  | .returned | .failed => exact release_of_flows cfg (flows_withHorizon.2 ho') flush
  | .panicked => exact absurd rfl hne

/-- The session waits for ever for a client that stays silent on an open connection. -/
def WaitsForClient (cfg : SessionConfig) (buffered : Bytes) (l : Link) : Prop :=
  ∃ s, openAndRead cfg (start cfg buffered l) = (.stuck, s) ∧ IsIdle cfg s

/-- The stream of a client that stays silent does not end. -/
theorem WaitsForClient.not_leaves {buffered : Bytes} {l : Link}
    (h : WaitsForClient cfg buffered l) : ¬ l.Leaves := by
  obtain ⟨s, hread, hidle⟩ := h
  intro hl
  obtain ⟨_, hcourse, _⟩ := course_openAndRead (permits_true cfg.handler) (start cfg buffered l)
  rw [hread] at hcourse
  obtain htail | hsock | ⟨e, he, _⟩ := hcourse.leaves hl
  · exact htail hidle.tail
  · rw [hidle.not_closed] at hsock
    contradiction
  · rw [hidle.timeline] at he
    contradiction

/-- On a client that takes everything in the end, or breaks, a session comes to its end,
unless the client stays silent. -/
theorem runOpen_settles (cfg : SessionConfig) (buffered : Bytes) {l : Link}
    (hl : l.sink.stall = none)
    (hclose : ∀ code, (cfg.handler.onClose code).Ends (· ≠ .panicked)) :
    ∀ᶠ h in atTop, (runOpen cfg buffered (l.withHorizon h)).1 = true ∨
      WaitsForClient cfg buffered (l.withHorizon h) := by
  have hflows : Flows (start cfg buffered l).outbox := ⟨hl, by simp [start]⟩
  have hlog : Flows (log cfg (start cfg buffered l).outbox .opened) :=
    (course_log (P := fun _ => True) rfl).flows hflows
  obtain ⟨how, o, ho, hhook⟩ := runHook_settles hlog cfg.handler.onOpen
  let s : Session := { start cfg buffered l with outbox := o }
  have hopened : ∀ᶠ h in atTop,
      opened cfg (start cfg buffered (l.withHorizon h)) = (some how, s.withHorizon h) := by
    filter_upwards [hhook] with h hhook
    have houtbox : (start cfg buffered (l.withHorizon h)).outbox =
        (start cfg buffered l).outbox.withHorizon h := rfl
    rw [opened]
    dsimp only
    rw [houtbox, log_withHorizon, hhook]
    rfl
  have hended : ∀ (code : UInt16) (flush : Bool) (s' : Session), Flows s'.outbox →
      (∀ᶠ h in atTop, openAndRead cfg (start cfg buffered (l.withHorizon h)) =
        (.ended code flush, s'.withHorizon h)) →
      ∀ᶠ h in atTop, (runOpen cfg buffered (l.withHorizon h)).1 = true ∨
        WaitsForClient cfg buffered (l.withHorizon h) := by
    intro code flush s' hs' hread
    filter_upwards [hread, finish_settles hs' (hclose code) flush] with h hread hfinish
    rw [runOpen, hread]
    exact .inl hfinish
  match how with
  | .returned =>
      obtain ⟨code, flush, s', hs', hread⟩ | hidle := readAll_settles cfg (s := s) ho
      · refine hended code flush s' hs' ?_
        filter_upwards [hopened, hread] with h hopened hread
        rw [openAndRead_eq, hopened]
        exact hread
      · filter_upwards [hopened, hidle] with h hopened hidle
        refine .inr ?_
        rw [WaitsForClient, openAndRead_eq, hopened]
        exact hidle
  | .failed | .panicked =>
      obtain ⟨flush, s', hfail⟩ := fail_settles (s := s) ho CloseCode.internalError
      have hs' : Flows s'.outbox := by
        have hgoes : Goes (fun _ => True) cfg (s.withHorizon 0)
            ((s.withHorizon 0).fail CloseCode.internalError).2 [] := goes_fail trivial
        rw [hfail] at hgoes
        exact flows_withHorizon.1 (hgoes.course.flows (flows_withHorizon.2 ho))
      refine hended CloseCode.internalError flush s' hs' ?_
      filter_upwards [hopened] with h hopened
      rw [openAndRead_eq, hopened]
      exact hfail h

/-! ## Whole sessions -/

/-- A session on an open connection that has not been given up is run. -/
theorem run_of_open {buffered : Bytes} {gone : Bool} {l : Link}
    (h : (gone || l.sock.isClosed) = false) :
    run cfg buffered gone l = ((runOpen cfg buffered l).1, (runOpen cfg buffered l).2.link) := by
  rw [run, h]
  rfl

/-- Nothing happens to the sock in a session but operations, and it is closed when the session
has come to its end, unless the connection was given up before. -/
theorem sock_run (cfg : SessionConfig) (buffered : Bytes) (gone : Bool) (l : Link) :
    l.sock.Becomes (run cfg buffered gone l).2.sock ∧
      (gone = false → (run cfg buffered gone l).1 = true →
        (run cfg buffered gone l).2.sock.isClosed = true) := by
  cases hover : gone || l.sock.isClosed with
  | true =>
      rw [run, if_pos hover]
      refine ⟨.refl _, ?_⟩
      rintro rfl -
      exact hover
  | false =>
      obtain ⟨_, hcourse, _⟩ :=
        course_openAndRead (permits_true cfg.handler) (start cfg buffered l)
      have hbecomes := hcourse.becomes
      rw [run_of_open hover, runOpen]
      split
      · next code flush s hread =>
          rw [hread] at hbecomes
          obtain ⟨hfinish, hclosed⟩ := sock_finish cfg s code flush
          exact ⟨hbecomes.trans hfinish, fun _ hdone => hclosed hdone⟩
      · next s hread =>
          rw [hread] at hbecomes
          exact ⟨hbecomes.trans (becomes_finishWriter s.outbox), fun _ hdone => by contradiction⟩

/-- **The hooks of a session are bracketed, and its sock is released.** On a closed sock no
hook is called and nothing is written. Otherwise the hook for the opening is called first and
once. Deliveries follow only if it returned, each in a step of its own that claims the
waiting sock. The hook for the end is called last and once: it has been when the session
comes to its end, and then the sock is closed and is no longer in its set. On a client that
takes everything in the end, or breaks, the session comes to its end, unless the client stays
silent on an open connection, and never ends its stream. -/
theorem run_brackets_hooks (cfg : SessionConfig) (buffered : Bytes) (gone : Bool) (l : Link) :
    ((gone || l.sock.isClosed) = true → run cfg buffered gone l = (true, l)) ∧
    ((gone || l.sock.isClosed) = false → ∃ (ds : List Delivery) (ends : List Event),
      (run cfg buffered gone l).2.calls =
        l.calls ++ recorded cfg (.opened :: ds.map .delivered ++ ends) ∧
      (ends = [] ∨ ∃ code closing, ends = [.ended code closing]) ∧
      (∀ before d after, ds = before ++ d :: after →
        HandsAfter cfg (start cfg buffered l) before d) ∧
      ((run cfg buffered gone l).1 = true →
        ends ≠ [] ∧ (run cfg buffered gone l).2.sock.state = .closed ∧
        ∀ (table : SockTable) (i home : Nat),
          i ∉ (table.put i home (run cfg buffered gone l).2.sock).members home)) ∧
    (l.sink.stall = none → (∀ code, (cfg.handler.onClose code).Ends (· ≠ .panicked)) →
      ∀ᶠ h in atTop, (run cfg buffered gone (l.withHorizon h)).1 = true ∨
        WaitsForClient cfg buffered (l.withHorizon h) ∧ ¬ l.Leaves) := by
  refine ⟨fun hl => by rw [run, if_pos hl], fun hl => ?_, fun hstall hclose => ?_⟩
  · rw [run_of_open hl]
    have hp := permits_true cfg.handler
    obtain ⟨ds, hcourse, hhands⟩ := course_openAndRead hp (start cfg buffered l)
    have hcalls := hcourse.calls
    rw [runOpen]
    split
    · next code flush s hread =>
        rw [hread] at hcalls
        refine ⟨ds, [.ended code s.outbox.closing], ?_, .inr ⟨code, s.outbox.closing, rfl⟩,
          hhands, fun hdone => ⟨by simp, ?_⟩⟩
        · rw [calls_finish, hcalls, recorded_append, ← List.append_assoc]
          rfl
        · have hclosed := (sock_finish cfg s code flush).2 hdone
          exact ⟨of_decide_eq_true hclosed, fun table i home =>
            table.not_mem_members_put i home hclosed⟩
    · next s hread =>
        rw [hread] at hcalls
        refine ⟨ds, [], ?_, .inl rfl, hhands, fun hdone => by contradiction⟩
        rw [List.append_nil]
        exact (calls_finishWriter s.outbox).trans hcalls
  · filter_upwards [runOpen_settles cfg buffered hstall hclose] with h hsettles
    cases hl : (gone || l.sock.isClosed) with
    | true =>
        have hl' : (gone || (l.withHorizon h).sock.isClosed) = true := hl
        rw [run, if_pos hl']
        exact .inl rfl
    | false =>
        have hl' : (gone || (l.withHorizon h).sock.isClosed) = false := hl
        rw [run, hl']
        exact hsettles.imp id fun hwaits => ⟨hwaits, hwaits.not_leaves⟩

/-- A handler that panics when it is given a message. -/
def panicking : SessionConfig where
  handler := { name := "panicking", onDelivery := fun _ _ => .finish .panicked }
  limit := 100
  patience := 50

/-- A client sends two messages in one piece, and leaves. -/
def twoMessages : Link :=
  { timeline :=
      [(1, .bytes ((Frame.text "a").encode (some ⟨1, 2, 3, 4⟩) ++
          (Frame.text "b").encode (some ⟨5, 6, 7, 8⟩))),
        (2, .eof)] }

theorem run_brackets_hooks_of_panic :
    (false || twoMessages.sock.isClosed) = false ∧ twoMessages.sink.stall = none ∧
      (∀ code, (panicking.handler.onClose code).Ends (· ≠ .panicked)) ∧ twoMessages.Leaves ∧
      (∃ (ds : List Delivery) (ends : List Event),
        [.opened, .delivered (.message (.text "a")), .ended 1011 true] =
        recorded panicking (.opened :: ds.map .delivered ++ ends) ∧ ends ≠ []) ∧
      (run panicking [] false twoMessages).2.sock.state = .closed ∧
      ∀ᶠ h in atTop, (run panicking [] false (twoMessages.withHorizon h)).1 = true := by
  have hleaves : twoMessages.Leaves := .inr (.inr ⟨(2, .eof), by decide, .inl rfl⟩)
  have hclose : ∀ code, (panicking.handler.onClose code).Ends (· ≠ .panicked) := by
    intro code
    simp [panicking, Program.Ends]
  obtain ⟨_, hbrackets, hsettles⟩ := run_brackets_hooks panicking [] false twoMessages
  obtain ⟨ds, ends, hcalls, _, _, hdone⟩ := hbrackets rfl
  have hrun : (run panicking [] false twoMessages).1 = true := by decide +kernel
  obtain ⟨hends, hclosed, _⟩ := hdone hrun
  refine ⟨rfl, rfl, hclose, hleaves, ⟨ds, ends, ?_, hends⟩, hclosed, ?_⟩
  · have hrecord : (run panicking [] false twoMessages).2.calls =
        [.opened, .delivered (.message (.text "a")), .ended 1011 true] := by decide +kernel
    exact hrecord.symm.trans hcalls
  · filter_upwards [hsettles rfl hclose] with h hsettles
    exact hsettles.resolve_right fun hwaits => hwaits.2 hleaves

end Session

end WebSocket

end WebServer
