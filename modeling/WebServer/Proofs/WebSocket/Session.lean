import WebServer.Proofs.WebSocket.Frame
import WebServer.Proofs.WebSocket.Outbox
import WebServer.WebSocket.Session

/-!
# WebServer.Proofs.WebSocket.Session

What a session does between two frames, and along all of them. Whatever its hooks, its
reader and its writer do is a course of moves of the sending side (`Goes`), so what moves
keep is kept by the session. Reading ends after finitely many steps (`size_step`), is a
recursion on the steps (`readAll_eq`), and hands over each delivery in a step of its own
that claims the waiting sock (`Hands`).

Main statement: `goes_readAll`.
-/

namespace WebServer

namespace WebSocket

open Outbox

/-! ## What hooks send -/

/-- The frame that an action sends. -/
def Action.frame? : Action → Option Frame
  | .text s => some (.text s)
  | .binary d => some (.binary d)
  | .ping d => some (.ping d)
  | .close code reason => some (.close code reason)
  | .delay _ | .isClosing => none

namespace Program

/-- Whatever it is answered, the program sends only frames with a property. -/
def Sends (P : Frame → Prop) : Program → Prop
  | .finish _ => True
  | .perform a next => (∀ f ∈ a.frame?, P f) ∧ ∀ answer, (next answer).Sends P

/-- Whatever it is answered, the program ends in a way with a property. -/
def Ends (Q : HookEnd → Prop) : Program → Prop
  | .finish how => Q how
  | .perform _ next => ∀ answer, (next answer).Ends Q

theorem Sends.mono {P P' : Frame → Prop}
    (hP : ∀ (a : Action) f, f ∈ a.frame? → P f → P' f) {p : Program} (h : p.Sends P) :
    p.Sends P' := by
  induction p with
  | finish => trivial
  | perform a next ih =>
      exact ⟨fun f hf => hP a f hf (h.1 f hf), fun answer => ih answer (h.2 answer)⟩

theorem Ends.mono {Q Q' : HookEnd → Prop} (hQ : ∀ how, Q how → Q' how) {p : Program}
    (h : p.Ends Q) : p.Ends Q' := by
  induction p with
  | finish how => exact hQ how h
  | perform a next ih => exact fun answer => ih answer (h answer)

end Program

/-- All hooks of a handler send only frames with a property. -/
structure Handler.Sends (P : Frame → Prop) (h : Handler) : Prop where
  onOpen : h.onOpen.Sends P
  onDelivery : ∀ earlier d, (h.onDelivery earlier d).Sends P
  onClose : ∀ code, (h.onClose code).Sends P

theorem Handler.Sends.mono {P P' : Frame → Prop} {h : Handler}
    (hP : ∀ (a : Action) f, f ∈ a.frame? → P f → P' f) (hs : h.Sends P) : h.Sends P' :=
  ⟨hs.onOpen.mono hP, fun earlier d => (hs.onDelivery earlier d).mono hP,
    fun code => (hs.onClose code).mono hP⟩

namespace Session

variable {P : Frame → Prop} {cfg : SessionConfig} {o o' : Outbox} {s s' s'' : Session}
  {ds ds' : List Delivery} {f : Frame} {n : Nat}

/-- A property of all frames that a session may send: those of its handler, answers to
pings, and its own Close frames. -/
structure Permits (P : Frame → Prop) (h : Handler) : Prop where
  handler : h.Sends P
  pong : ∀ data, data.length ≤ maxControlPayload → P (.pong data)
  close : ∀ code, CloseCode.isSendable code = true → P (.close code "")
  bare : P { opcode := .close, payload := [] }

theorem permits_true (h : Handler) : Permits (fun _ => True) h := by
  have hsends : ∀ p : Program, p.Sends fun _ => True := by
    intro p
    induction p with
    | finish => trivial
    | perform a next ih => exact ⟨fun _ _ => trivial, ih⟩
  exact ⟨⟨hsends _, fun _ _ => hsends _, fun _ => hsends _⟩, fun _ _ => trivial,
    fun _ _ => trivial, trivial⟩

/-! ## Actions -/

theorem course_ofSent {r : Sent × Outbox} (h : Course P o [] r.2) :
    Course P o [] (ofSent r).2 := by
  obtain ⟨sent, o₁⟩ := r
  cases sent with
  | ok | stuck => exact h
  | failed => exact .move h (.log rfl)

theorem course_send (hf : P f) (hne : f.opcode ≠ .close) : Course P o [] (o.send f).2 := by
  unfold Outbox.send
  split
  · exact .nil
  · exact (Move.send hf hne).course

theorem course_close {code : UInt16} {reason : String} (hP : P (.close code reason)) :
    Course P o [] (o.close code reason).2 := by
  unfold Outbox.close
  split
  · exact .nil
  · next hopen => exact (Move.close hP rfl (Bool.eq_false_iff.2 hopen)).course

theorem course_sleep (ms : Nat) : Course P o [] (o.sleep ms).2 := by
  unfold sleep
  split
  · exact .nil
  · dsimp only
    have hwait := (Move.write (P := P) (o := o)).course.trans
      (Move.wait (α := Unit) (fun _ => none) (some (o.flush.link.now + ms))).course
    split
    · next hawait =>
        rw [hawait] at hwait
        exact .move hwait .notice
    · next hawait =>
        rw [hawait] at hwait
        exact hwait

theorem course_perform {a : Action} (h : ∀ f ∈ a.frame?, P f) :
    Course P o [] (perform o a).2 := by
  cases a with
  | text | binary | ping =>
      exact course_ofSent (course_send (h _ rfl) (by simp [Frame.text, Frame.binary, Frame.ping]))
  | close code reason => exact course_ofSent (course_close (h _ rfl))
  | delay ms =>
      have hsleep := course_sleep (P := P) (o := o) ms
      rw [perform]
      split <;> next hs => rwa [hs] at hsleep
  | isClosing => exact (Move.log rfl).course

/-- A hook runs without another hook being called. -/
theorem course_runHook {p : Program} (h : p.Sends P) : Course P o [] (runHook p o).2 := by
  induction p generalizing o with
  | finish => exact .nil
  | perform a next ih =>
      have hperform := course_perform (o := o) h.1
      rw [runHook]
      split
      · next answer o₁ ha =>
          rw [ha] at hperform
          exact hperform.trans (ih answer (h.2 answer))
      · next o₁ ha =>
          rw [ha] at hperform
          exact hperform

/-! ## What a session records -/

/-- What the record of a session holds of some calls. -/
def recorded (cfg : SessionConfig) (es : List Event) : List Event :=
  if cfg.handler.quiet then [] else es

theorem recorded_nil (cfg : SessionConfig) : recorded cfg [] = [] := ite_self _

theorem recorded_append (cfg : SessionConfig) (es es' : List Event) :
    recorded cfg (es ++ es') = recorded cfg es ++ recorded cfg es' := by
  unfold recorded
  split
  · rfl
  · rfl

theorem course_log {e : Event} (he : e.isHook = true) :
    Course P o (recorded cfg [e]) (log cfg o e) := by
  unfold log recorded
  split
  · exact .nil
  · exact .call .nil he

/-- The call of a hook is recorded, and the hook runs. -/
theorem course_call {e : Event} {p : Program} (he : e.isHook = true) (hp : p.Sends P) :
    Course P o (recorded cfg [e]) (runHook p (log cfg o e)).2 := by
  have hlog : Course P o (recorded cfg [e]) (log cfg o e) := course_log he
  have hcourse := hlog.trans (course_runHook hp)
  rwa [List.append_nil] at hcourse

/-! ## Between two frames -/

/-- The bytes that a session has not parsed; those not read yet count twice. -/
def size (s : Session) : Nat := 2 * s.outbox.link.supply + s.buffer.length

/-- From one state to another a session has handed over some deliveries, and what it sent
has a property. -/
structure Goes (P : Frame → Prop) (cfg : SessionConfig) (s s' : Session)
    (ds : List Delivery) : Prop where
  earlier : s'.earlier = ds.reverse ++ s.earlier
  course : Course P s.outbox (recorded cfg (ds.map .delivered)) s'.outbox
  size_le : s'.size ≤ s.size

theorem goes_of_course (hearlier : s'.earlier = s.earlier)
    (hbuffer : s'.buffer.length ≤ s.buffer.length) (h : Course P s.outbox [] s'.outbox) :
    Goes P cfg s s' [] where
  earlier := hearlier
  course := by
    rw [List.map_nil, recorded_nil]
    exact h
  size_le := by
    have hsupply := h.supply_le
    unfold size
    omega

theorem Goes.trans (h : Goes P cfg s s' ds) (h' : Goes P cfg s' s'' ds') :
    Goes P cfg s s'' (ds ++ ds') where
  earlier := by rw [h'.earlier, h.earlier, List.reverse_append, List.append_assoc]
  course := by
    rw [List.map_append, recorded_append]
    exact h.course.trans h'.course
  size_le := Nat.le_trans h'.size_le h.size_le

/-- Only the sending side moves. -/
theorem goes_outbox (h : Course P s.outbox [] o) : Goes P cfg s { s with outbox := o } [] :=
  goes_of_course rfl (Nat.le_refl _) h

theorem fail_snd (s : Session) (code : UInt16) :
    (s.fail code).2 = { s with outbox := (s.outbox.close code "").2 } := by
  unfold fail
  split <;> next h => rw [h]

theorem goes_fail {code : UInt16} (hP : P (.close code "")) :
    Goes P cfg s (s.fail code).2 [] := by
  rw [fail_snd]
  exact goes_outbox (course_close hP)

theorem sendControl_snd (s : Session) (f : Frame) :
    (s.sendControl f).2 = { s with outbox := (s.outbox.post f).2 } := by
  unfold sendControl
  split <;> next h => rw [h]

theorem onClose_snd (s : Session) (f : Frame) :
    (s.onClose f).2 = if s.outbox.closing then s else
      { s with outbox := ({ s.outbox with closing := true }.post (closeReply f)).2 } := by
  unfold onClose
  dsimp only
  split
  · rfl
  · have hsnd := sendControl_snd { s with outbox := { s.outbox with closing := true } }
      (closeReply f)
    split <;> next h => rw [h] at hsnd; exact hsnd

/-- A Close frame is answered by one that is empty, or carries a code that may be sent. -/
theorem closeReply_cases (f : Frame) :
    closeReply f = { opcode := .close, payload := [] } ∨
      ∃ code, CloseCode.isSendable code = true ∧ closeReply f = .close code "" := by
  unfold closeReply
  split
  · next code _ =>
      split
      · next hs => exact .inr ⟨code, hs, rfl⟩
      · exact .inr ⟨CloseCode.normal, rfl, rfl⟩
  · split
    · exact .inl rfl
    · exact .inr ⟨CloseCode.normal, rfl, rfl⟩

theorem Permits.closeReply {h : Handler} (hp : Permits P h) (f : Frame) :
    P (closeReply f) ∧ (Session.closeReply f).opcode = .close := by
  obtain hr | ⟨code, hs, hr⟩ := closeReply_cases f
  · rw [hr]
    exact ⟨hp.bare, rfl⟩
  · rw [hr]
    exact ⟨hp.close code hs, rfl⟩

theorem goes_onClose (hp : Permits P cfg.handler) : Goes P cfg s (s.onClose f).2 [] := by
  obtain ⟨hP, hclose⟩ := hp.closeReply f
  rw [onClose_snd]
  split
  · exact goes_outbox .nil
  · next hopen => exact goes_outbox (Move.close hP hclose (Bool.eq_false_iff.2 hopen)).course

/-- Releasing the sock does not close it. -/
theorem isClosed_endCycle (sock : Sock) (now : Nat) :
    (sock.endCycle now).2.isClosed = sock.isClosed := by
  unfold Sock.endCycle
  dsimp only
  split
  · next hs =>
      have hstate : sock.state = .processing := hs
      simp [Sock.isClosed, hstate]
  · rfl

theorem goes_endCycle : Goes P cfg s s.endCycle [] :=
  goes_outbox (Move.sock (isClosed_endCycle _ _) (Sock.becomes_perform _ (.endCycle _))).course

theorem goes_failDelivery {code : UInt16} (hP : P (.close code "")) :
    Goes P cfg s (s.failDelivery code).2 [] := goes_endCycle.trans (goes_fail hP)

theorem goes_handOver (hp : Permits P cfg.handler) (d : Delivery) :
    Goes P cfg s (handOver cfg s d).2 [d] := by
  have hcourse : Course P s.outbox (recorded cfg [.delivered d]) (handOver cfg s d).2.outbox :=
    course_call rfl (hp.handler.onDelivery s.earlier d)
  refine ⟨rfl, hcourse, ?_⟩
  exact Nat.add_le_add_right (Nat.mul_le_mul_left 2 hcourse.supply_le) _

theorem goes_afterDelivery (hp : Permits P cfg.handler) (r : Option HookEnd × Session) :
    Goes P cfg r.2 (afterDelivery r).2 [] := by
  obtain ⟨how, s⟩ := r
  match how with
  | none => exact goes_outbox .nil
  | some .returned => exact goes_endCycle
  | some .failed | some .panicked => exact goes_failDelivery (hp.close _ rfl)

/-- A code that ends a delivery may be sent. -/
theorem isSendable_of_delivery {r : Reassembler} {code : UInt16}
    (h : (delivery cfg r f).1 = .error code) : CloseCode.isSendable code = true := by
  have herror : ∀ e : FrameError, CloseCode.isSendable e.closeCode = true := by
    intro e
    cases e <;> rfl
  unfold delivery at h
  dsimp only at h
  repeat' split at h
  all_goals first
    | contradiction
    | (obtain rfl := Except.error.inj h; first | exact herror _ | rfl)

/-- A claim finds the sock waiting and holds it. -/
theorem claim_eq_some {given : Except UInt16 (Option Delivery)} {s₁ : Session}
    (h : s.claim cfg f = some (given, s₁)) :
    s.outbox.link.sock.state.isWaiting = true ∧ s₁.outbox.link.sock.state = .processing ∧
      delivery cfg s.reassembler f = (given, s₁.reassembler) ∧ Goes P cfg s s₁ [] := by
  unfold claim at h
  simp only [Link.onSock, Sock.beginCycle] at h
  split at h
  · contradiction
  · next link hbegin =>
      obtain ⟨rfl, rfl⟩ := Prod.mk.inj (Option.some.inj h)
      split at hbegin
      · next hw =>
          obtain ⟨_, rfl⟩ := Prod.mk.inj hbegin
          have hclosed : ({ s.outbox.link.sock with state := .processing } : Sock).isClosed =
              s.outbox.link.sock.isClosed := by
            cases hs : s.outbox.link.sock.state <;> simp_all [Sock.isClosed, SockState.isWaiting]
          have hbegin := s.outbox.link.sock.becomes_perform .beginCycle
          rw [Sock.perform, Sock.beginCycle_of_isWaiting hw] at hbegin
          exact ⟨hw, rfl, rfl, goes_of_course rfl (Nat.le_refl _) (Move.sock hclosed hbegin).course⟩
      · simp at hbegin

/-- The sock is waiting, a frame claims it, and what the frame gives is handed over. -/
structure Hands (cfg : SessionConfig) (s : Session) (d : Delivery) (s₁ : Session) : Prop where
  waiting : s.outbox.link.sock.state.isWaiting = true
  processing : s₁.outbox.link.sock.state = .processing
  frame : ∃ f n, Frame.parse s.buffer cfg.limit = .ok (some (f, n)) ∧ f.masked = true ∧
    delivery cfg s.reassembler f = (.ok (some d), s₁.reassembler)
  step_eq : step cfg s = afterDelivery (handOver cfg s₁ d)

/-- A data frame hands over nothing, or what it gives, with the sock claimed. -/
theorem goes_onData (hp : Permits P cfg.handler) (s : Session) (f : Frame) :
    Goes P cfg s (onData cfg s f).2 [] ∨
      ∃ d s₁, s.claim cfg f = some (.ok (some d), s₁) ∧
        onData cfg s f = afterDelivery (handOver cfg s₁ d) ∧
        Goes P cfg s (onData cfg s f).2 [d] := by
  unfold onData
  split
  · exact .inl (goes_outbox .nil)
  · next code s₁ hclaim =>
      obtain ⟨_, _, hdelivery, hgoes⟩ := claim_eq_some (P := P) hclaim
      have hcode := isSendable_of_delivery (congrArg Prod.fst hdelivery)
      exact .inl (hgoes.trans (goes_failDelivery (hp.close code hcode)))
  · next s₁ hclaim =>
      obtain ⟨_, _, _, hgoes⟩ := claim_eq_some (P := P) hclaim
      exact .inl (hgoes.trans goes_endCycle)
  · next d s₁ hclaim =>
      obtain ⟨_, _, _, hgoes⟩ := claim_eq_some (P := P) hclaim
      exact .inr ⟨d, s₁, hclaim, rfl,
        hgoes.trans ((goes_handOver hp d).trans (goes_afterDelivery hp _))⟩

/-! ## Waiting for bytes -/

/-- The sending side when it waits for bytes: the writer has had its turn, unless bytes are
there already. -/
def beforeRead (o : Outbox) : Outbox :=
  if (o.link.arrivalOr fun l => l.sock.isClosed).isSome then o else o.flush

theorem receive_eq (o : Outbox) (deadline : Option Nat) :
    o.receive deadline =
      (((beforeRead o).link.receive deadline fun l => l.sock.isClosed).1,
        { beforeRead o with
          link := ((beforeRead o).link.receive deadline fun l => l.sock.isClosed).2
        }.noticeClose) := rfl

theorem course_beforeRead : Course P o [] (beforeRead o) := by
  unfold beforeRead
  split
  · exact .nil
  · exact Move.write.course

theorem course_receive (deadline : Option Nat) : Course P o [] (o.receive deadline).2 := by
  obtain ⟨n, hlink⟩ := Link.receive_snd (beforeRead o).link deadline fun l => l.sock.isClosed
  rw [receive_eq, hlink]
  let l := ((beforeRead o).link.await (Link.arrivalOr fun l => l.sock.isClosed) deadline).2
  exact ((course_beforeRead.move (.wait _ _)).move
    (.read (o := { beforeRead o with link := l }) n)).move .notice

/-- Bytes that are read are taken from what is left to read. -/
theorem supply_receive {deadline : Option Nat} {bs : Bytes}
    (h : o.receive deadline = (.arrived (.bytes bs), o')) :
    bs ≠ [] ∧ o'.link.supply + bs.length ≤ o.link.supply := by
  rw [receive_eq] at h
  obtain ⟨hbytes, rfl⟩ := Prod.mk.inj h
  generalize hl : (beforeRead o).link.receive deadline (fun l => l.sock.isClosed) = r at hbytes ⊢
  obtain ⟨_, l⟩ := r
  obtain rfl : _ = _ := hbytes
  obtain ⟨hne, hsupply⟩ := Link.supply_receive hl
  have hle : (beforeRead o).link.supply ≤ o.link.supply :=
    (course_beforeRead (P := fun _ => True)).supply_le
  have hnotice : ({ beforeRead o with link := l } : Outbox).noticeClose.link.supply ≤ l.supply :=
    supply_move (P := fun _ => True) (.notice (o := { beforeRead o with link := l }))
  refine ⟨hne, Nat.le_trans (Nat.add_le_add_right hnotice _) ?_⟩
  omega

/-! ## Steps -/

theorem course_consume (s : Session) (n : Nat) : Course P s.outbox [] (s.consume n).outbox :=
  Move.course (.sock rfl (Sock.becomes_perform _ (.touch _)))

theorem goes_consume (s : Session) (n : Nat) : Goes P cfg s (s.consume n) [] :=
  goes_of_course rfl (by simp [consume]) (course_consume s n)

/-- Reading more brings bytes, or ends the session. -/
theorem goes_readMore (s : Session) :
    Goes P cfg s (readMore cfg s).2 [] ∧
      ((readMore cfg s).1 = none → (readMore cfg s).2.size < s.size) := by
  unfold readMore
  dsimp only
  generalize (if s.outbox.closing then some (s.outbox.link.now + cfg.patience) else none) =
    deadline
  have hread := course_receive (P := P) (o := s.outbox) deadline
  split
  · next bs outbox hr =>
      rw [hr] at hread
      obtain ⟨hne, hsupply⟩ := supply_receive hr
      have hpos := List.length_pos_iff.2 hne
      have hsize : size { s with outbox, buffer := s.buffer ++ bs } < s.size := by
        simp only [size, List.length_append]
        omega
      refine ⟨⟨rfl, ?_, Nat.le_of_lt hsize⟩, fun _ => hsize⟩
      rw [List.map_nil, recorded_nil]
      exact hread
  · next outbox hr =>
      rw [hr] at hread
      exact ⟨goes_outbox hread, fun h => by contradiction⟩
  · next outbox hr =>
      rw [hr] at hread
      exact ⟨goes_outbox hread, fun h => by contradiction⟩

theorem goes_onFrame (hp : Permits P cfg.handler) (s : Session)
    (hsize : f.opcode.isControl = true → f.payload.length ≤ maxControlPayload) :
    Goes P cfg s (onFrame cfg s f).2 [] ∨
      ∃ d s₁, f.masked = true ∧ s.claim cfg f = some (.ok (some d), s₁) ∧
        onFrame cfg s f = afterDelivery (handOver cfg s₁ d) ∧
        Goes P cfg s (onFrame cfg s f).2 [d] := by
  unfold onFrame
  split
  · exact .inl (goes_fail (hp.close _ rfl))
  · next hm =>
      have hmasked : f.masked = true := by simpa using hm
      split
      · next hping =>
          rw [sendControl_snd]
          have hpong := hp.pong f.payload (hsize (by rw [hping]; rfl))
          exact .inl (goes_outbox (Move.send hpong Opcode.noConfusion).course)
      · exact .inl (goes_outbox .nil)
      · exact .inl (goes_onClose hp)
      all_goals
        obtain hgoes | ⟨d, s₁, hclaim, heq, hgoes⟩ := goes_onData hp s f
        · exact .inl hgoes
        · exact .inr ⟨d, s₁, hmasked, hclaim, heq, hgoes⟩

/-- A step hands over nothing, or one delivery, with the sock claimed. It takes bytes. -/
theorem goes_step (hp : Permits P cfg.handler) (s : Session) :
    (Goes P cfg s (step cfg s).2 [] ∨ ∃ d s₁, Hands cfg s d s₁ ∧ Goes P cfg s (step cfg s).2 [d]) ∧
      ((step cfg s).1 = none → (step cfg s).2.size < s.size) := by
  cases hparse : Frame.parse s.buffer cfg.limit with
  | error e =>
      have hstep : step cfg s = (some (s.fail e.closeCode).1, (s.fail e.closeCode).2) := by
        rw [step, hparse]
      rw [hstep]
      refine ⟨.inl (goes_fail (hp.close _ ?_)), fun h => by contradiction⟩
      cases e <;> rfl
  | ok read =>
      cases read with
      | none =>
          have hstep : step cfg s = readMore cfg s := by rw [step, hparse]
          rw [hstep]
          exact ⟨.inl (goes_readMore s).1, (goes_readMore (P := P) s).2⟩
      | some read =>
          obtain ⟨f, n⟩ := read
          have hread := Frame.isRead_of_parse hparse
          have hstep : step cfg s = onFrame cfg (s.consume n) f := by rw [step, hparse]
          have hconsume : Goes P cfg s (s.consume n) [] := goes_consume s n
          have hlt : (s.consume n).size < s.size := by
            have htwo := hread.two_le
            have hle := hread.le_length
            show 2 * s.outbox.link.supply + (s.buffer.drop n).length < _
            rw [List.length_drop, size]
            omega
          rw [hstep]
          obtain hgoes | ⟨d, s₁, hmasked, hclaim, heq, hgoes⟩ := goes_onFrame hp (s.consume n)
            fun hc => (hread.legal.control hc).2
          · exact ⟨.inl (hconsume.trans hgoes), fun _ => Nat.lt_of_le_of_lt hgoes.size_le hlt⟩
          · obtain ⟨hwaiting, hprocessing, hdelivery, _⟩ := claim_eq_some (P := P) hclaim
            exact ⟨.inr ⟨d, s₁, ⟨hwaiting, hprocessing, ⟨f, n, hparse, hmasked, hdelivery⟩,
              hstep.trans heq⟩, hconsume.trans hgoes⟩,
              fun _ => Nat.lt_of_le_of_lt hgoes.size_le hlt⟩

theorem size_step (h : step cfg s = (none, s')) : s'.size < s.size := by
  have hlt := (goes_step (permits_true cfg.handler) s).2
  rw [h] at hlt
  exact hlt rfl

/-! ## Reading to the end -/

theorem readLoop_eq_of_lt {m : Nat} (hn : s.size < n) (hm : s.size < m) :
    readLoop cfg n s = readLoop cfg m s := by
  induction n generalizing s m with
  | zero => exact absurd hn (Nat.not_lt_zero _)
  | succ n ih =>
      obtain ⟨m, rfl⟩ : ∃ k, m = k + 1 := ⟨m - 1, by omega⟩
      rw [readLoop, readLoop]
      split
      · next s₁ hstep =>
          have hlt := size_step hstep
          exact ih (by omega) (by omega)
      · rfl

/-- Reading is a recursion on the steps: the fuel lasts. -/
theorem readAll_eq (cfg : SessionConfig) (s : Session) :
    readAll cfg s =
      match step cfg s with
      | (none, s') => readAll cfg s'
      | (some stop, s') => (stop, s') := by
  have hfuel : ∀ s, readAll cfg s = readLoop cfg (s.size + 1) s := fun _ => rfl
  rw [hfuel, readLoop]
  cases hstep : step cfg s with
  | mk stop s' =>
      cases stop with
      | none =>
          have hlt := size_step hstep
          exact readLoop_eq_of_lt hlt (Nat.lt_succ_self _)
      | some stop => rfl

/-- Reading goes on from one state to another. -/
inductive Passes (cfg : SessionConfig) : Session → Session → Prop where
  | refl {s : Session} : Passes cfg s s
  | step {s s' s'' : Session} : step cfg s = (none, s') → Passes cfg s' s'' → Passes cfg s s''

theorem readAll_of_passes (h : Passes cfg s s') : readAll cfg s = readAll cfg s' := by
  induction h with
  | refl => rfl
  | step hstep _ ih =>
      rw [readAll_eq, hstep]
      exact ih

theorem goes_of_passes (hp : Permits P cfg.handler) (h : Passes cfg s s') :
    ∃ ds, Goes P cfg s s' ds := by
  induction h with
  | refl => exact ⟨[], goes_outbox .nil⟩
  | @step s s₁ _ hstep _ ih =>
      obtain ⟨ds, hgoes⟩ := ih
      obtain ⟨hfirst, _⟩ := goes_step hp s
      rw [hstep] at hfirst
      obtain hfirst | ⟨d, _, _, hfirst⟩ := hfirst
      · exact ⟨ds, hfirst.trans hgoes⟩
      · exact ⟨d :: ds, hfirst.trans hgoes⟩

/-- What is proved of a state from the states that the session passes next is proved of all
states. -/
theorem reading_induction {motive : Session → Prop} (cfg : SessionConfig)
    (h : ∀ s, (∀ s', step cfg s = (none, s') → motive s') → motive s) (s : Session) :
    motive s := by
  induction hn : s.size using Nat.strongRecOn generalizing s with
  | ind n ih => exact h s fun s' hstep => ih _ (hn ▸ size_step hstep) s' rfl

/-- **Reading to the end hands over deliveries one by one**, each in a step of its own that
claims the waiting sock. -/
theorem goes_readAll (hp : Permits P cfg.handler) (s : Session) :
    ∃ ds, Goes P cfg s (readAll cfg s).2 ds ∧
      ∀ before d after, ds = before ++ d :: after →
        ∃ s₁ s₂, Passes cfg s s₁ ∧ Goes P cfg s s₁ before ∧ Hands cfg s₁ d s₂ := by
  induction s using reading_induction cfg with
  | h s ih =>
      obtain ⟨hgoes, _⟩ := goes_step hp s
      rw [readAll_eq]
      split
      · next s' hstep =>
          obtain ⟨ds, hgoes', hhands⟩ := ih s' hstep
          rw [hstep] at hgoes
          obtain hgoes | ⟨d, s₁, hd, hgoes⟩ := hgoes
          · refine ⟨ds, hgoes.trans hgoes', fun before d after hds => ?_⟩
            obtain ⟨s₁, s₂, hpasses, hbefore, hd⟩ := hhands before d after hds
            exact ⟨s₁, s₂, .step hstep hpasses, hgoes.trans hbefore, hd⟩
          · refine ⟨d :: ds, hgoes.trans hgoes', fun before d' after hds => ?_⟩
            cases before with
            | nil =>
                obtain ⟨rfl, _⟩ := List.cons.inj hds
                exact ⟨s, s₁, .refl, goes_outbox .nil, hd⟩
            | cons d₀ before =>
                obtain ⟨rfl, htail⟩ := List.cons.inj hds
                obtain ⟨s₂, s₃, hpasses, hbefore, hd'⟩ := hhands before d' after htail
                exact ⟨s₂, s₃, .step hstep hpasses, hgoes.trans hbefore, hd'⟩
      · next stop s' hstep =>
          rw [hstep] at hgoes
          obtain hgoes | ⟨d, s₁, hd, hgoes⟩ := hgoes
          · exact ⟨[], hgoes, fun before d after hds => by simp at hds⟩
          · refine ⟨[d], hgoes, fun before d' after hds => ?_⟩
            obtain ⟨rfl, rfl, rfl⟩ : before = [] ∧ d = d' ∧ after = [] := by
              cases before <;> simp_all
            exact ⟨s, s₁, .refl, goes_outbox .nil, hd⟩

end Session

end WebSocket

end WebServer
