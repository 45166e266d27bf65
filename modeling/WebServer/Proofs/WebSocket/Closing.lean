import WebServer.Proofs.WebSocket.Lifetime
import WebServer.Proofs.WebSocket.Written

/-!
# WebServer.Proofs.WebSocket.Closing

The closing handshake. Whoever begins it, and in whatever order handler, peer and failures
do, a session writes one Close frame at most, and nothing behind it. What was accepted
before stands before it, in order. A peer that closes first is answered with its own code,
if that may be sent.

Main statement: `runOpen_closes_once`.
-/

namespace WebServer

namespace WebSocket

open Outbox

/-! ## Codes -/

/-- The frame carries no code that may not be sent. -/
def Frame.HasSendableCode (f : Frame) : Prop :=
  f.opcode = .close → ∀ code, f.closeCode? = some code → CloseCode.isSendable code = true

theorem Frame.closeCode?_close (code : UInt16) (reason : String) :
    (Frame.close code reason).closeCode? = some code := by
  have hcode : UInt16.ofNat
      ((UInt8.ofNat (code.toNat / 256)).toNat * 256 + (UInt8.ofNat (code.toNat % 256)).toNat) =
        code := by
    have hlt := code.toNat_lt
    have hnat : (UInt8.ofNat (code.toNat / 256)).toNat * 256 +
        (UInt8.ofNat (code.toNat % 256)).toNat = code.toNat := by
      simp only [UInt8.toNat_ofNat']
      omega
    rw [hnat, UInt16.ofNat_toNat]
  simp only [close, closeCode?, bigEndian16, List.cons_append, hcode]

namespace Session

variable {P : Frame → Prop} {cfg : SessionConfig} {c : Prop} {out : Bytes} {o : Outbox}
  {s s' : Session} {l : Link} {buffered : Bytes} {f g : Frame} {n : Nat}

/-- Of itself a session sends only codes that may be sent. -/
theorem permits_hasSendableCode {h : Handler} (hsends : h.Sends Frame.HasSendableCode) :
    Permits Frame.HasSendableCode h where
  handler := hsends
  pong _ _ := fun hclose => Opcode.noConfusion hclose
  close code hcode := fun _ code' hcode' => by
    rw [Frame.closeCode?_close] at hcode'
    exact Option.some.inj hcode' ▸ hcode
  bare := fun _ code hcode => by simp [Frame.closeCode?] at hcode

/-! ## Sends -/

/-- A hook is told that a frame was sent exactly when it is accepted; of a session that is
closing, no Close frame is. -/
theorem accepted_perform {a : Action} (ha : a.frame? = some f)
    (hf : f.opcode = .close → o.closing = false) :
    (perform o a).2.accepted =
      if (perform o a).1 = some true then f :: o.accepted else o.accepted := by
  have hsent : ∀ r : Sent × Outbox,
      r.2.accepted = (if r.1 = .ok then f :: o.accepted else o.accepted) →
      (ofSent r).2.accepted =
        if (ofSent r).1 = some true then f :: o.accepted else o.accepted := by
    rintro ⟨sent, o₁⟩ haccepted
    cases sent <;> exact haccepted
  have hsend : (ofSent (o.send f)).2.accepted =
      if (ofSent (o.send f)).1 = some true then f :: o.accepted else o.accepted := by
    refine hsent _ ?_
    unfold send
    split
    · rfl
    · exact accepted_post o f
  cases a with
  | text | binary | ping =>
      obtain rfl := Option.some.inj ha
      exact hsend
  | close code reason =>
      obtain rfl := Option.some.inj ha
      refine hsent _ ?_
      rw [Outbox.close, if_neg (by simp [hf rfl])]
      exact accepted_post { o with closing := true } _
  | delay | isClosing => contradiction

/-! ## What is written in the end -/

/-- The writer's last turn writes all that is accepted, up to a Close frame, if the client
takes it. -/
theorem wrote_finishWriter (h : ∃ ws rest p, Wrote c out ws rest p o) :
    ∃ ws rest p, Wrote False out ws rest p (finishWriter o).2 ∧
      (c → (finishWriter o).1 = true ∧ (rest = [] ∨ ∃ f ∈ ws, f.opcode = .close)) := by
  obtain ⟨ws, rest, p, h⟩ := h
  obtain ⟨ws, rest, p, h⟩ := h.flush
  have hweak : Wrote False out ws rest p o.flush :=
    h.congr rfl rfl rfl rfl fun hc => hc.elim
  unfold finishWriter
  dsimp only
  split
  · next hw =>
      refine ⟨ws, rest, p, h.stop, fun _ => ⟨rfl, .inl ?_⟩⟩
      rw [(h.ready hw).1, queue_flush hw]
  · next hw =>
      refine ⟨ws, rest, p, hweak, fun hc => ⟨rfl, ?_⟩⟩
      obtain hready | ⟨_, hclose⟩ := (h.calm hc).2
      · simp [hw] at hready
      · exact .inr hclose
  · next hw =>
      refine ⟨ws, rest, p, hweak, fun hc => ?_⟩
      obtain hready | ⟨hended, _⟩ := (h.calm hc).2
      · simp [hw] at hready
      · simp [hw] at hended

theorem Wrote.closeSock {ws rest : List Frame} {p : Bytes} (h : Wrote c out ws rest p o) :
    Wrote False out ws rest p o.closeSock := h.congr rfl rfl rfl rfl fun hc => hc.elim

/-- A Close frame gets its time to go out. -/
theorem wrote_release (cfg : SessionConfig) (flush : Bool)
    (h : ∃ ws rest p, Wrote c out ws rest p o) :
    ∃ ws rest p, Wrote False out ws rest p (release cfg o flush).2 ∧
      (c → flush = true → cfg.patience ≠ 0 → rest = [] ∨ ∃ f ∈ ws, f.opcode = .close) := by
  unfold release
  split
  · split
    · next hpatience =>
        obtain ⟨ws, rest, p, h⟩ := h
        exact ⟨ws, rest, p, Wrote.closeSock h, fun _ _ hne => absurd hpatience hne⟩
    · obtain ⟨ws, rest, p, hwriter, hcalm⟩ := wrote_finishWriter h
      split
      · next o₁ ho₁ =>
          rw [ho₁] at hwriter
          exact ⟨ws, rest, p, Wrote.closeSock hwriter, fun hc _ _ => (hcalm hc).2⟩
      · next o₁ ho₁ =>
          rw [ho₁] at hwriter hcalm
          obtain ⟨ws, rest, p, hsleep⟩ := (course_sleep (P := fun _ => True) (o := o₁)
            cfg.patience).wrote ⟨ws, rest, p, hwriter⟩
          have hnot : ∀ {q : Prop}, c → q := fun hc => absurd (hcalm hc).1 Bool.false_ne_true
          split
          · next o₂ ho₂ =>
              rw [ho₂] at hsleep
              exact ⟨ws, rest, p, Wrote.closeSock hsleep, fun hc _ _ => hnot hc⟩
          · next o₂ ho₂ =>
              rw [ho₂] at hsleep
              exact ⟨ws, rest, p, hsleep, fun hc _ _ => hnot hc⟩
  · next hflush =>
      obtain ⟨ws, rest, p, h⟩ := h
      obtain ⟨ws, rest, p, hwriter, _⟩ := wrote_finishWriter ⟨ws, rest, p, Wrote.closeSock h⟩
      split
      · next o₁ ho₁ =>
          rw [ho₁] at hwriter
          exact ⟨ws, rest, p, hwriter, fun _ hf _ => absurd hf hflush⟩
      · next o₁ ho₁ =>
          rw [ho₁] at hwriter
          refine ⟨ws, rest, p, ?_, fun _ hf _ => absurd hf hflush⟩
          exact hwriter.congr (congrArg Sink.output (Link.sink_await _ _ _)) rfl rfl rfl
            fun hc => hc.elim

/-- The last turn of the writer of a session, whose sending side is `o` when its last hook has
ended. -/
def LastTurn (cfg : SessionConfig) (buffered : Bytes) (l : Link) (o : Outbox) : Prop :=
  (runOpen cfg buffered l).2 = (finishWriter o).2 ∨
    ∃ code flush, (openAndRead cfg (start cfg buffered l)).1 = .ended code flush ∧
      (runOpen cfg buffered l).2 = (release cfg o flush).2

/-- When reading has ended only the last hook sends, and then the writer has its last turn. -/
theorem course_runOpen (hp : Permits P cfg.handler) (buffered : Bytes) (l : Link) :
    ∃ es o, Course P (openAndRead cfg (start cfg buffered l)).2.outbox es o ∧
      LastTurn cfg buffered l o := by
  unfold LastTurn
  rw [runOpen]
  generalize openAndRead cfg (start cfg buffered l) = r
  obtain ⟨stop, s⟩ := r
  cases stop with
  | ended code flush =>
      obtain ⟨o, hcourse, heq | heq⟩ := course_finish hp s code flush
      · exact ⟨_, o, hcourse, .inr ⟨code, flush, rfl, congrArg Prod.snd heq⟩⟩
      · refine ⟨_, o, hcourse, .inl ?_⟩
        show (finish cfg s code flush).2 = _
        rw [heq]
  | stuck => exact ⟨[], s.outbox, .nil, .inl rfl⟩

theorem LastTurn.accepted (h : LastTurn cfg buffered l o) :
    (runOpen cfg buffered l).2.accepted = o.accepted := by
  obtain heq | ⟨code, flush, _, heq⟩ := h
  · rw [heq]
    exact accepted_finishWriter o
  · rw [heq]
    exact (released_release cfg o flush).accepted

/-- When the session ends with a Close frame, what is accepted is written up to that. -/
theorem LastTurn.wrote (h : LastTurn cfg buffered l o)
    (ho : ∃ ws rest p, Wrote c out ws rest p o) :
    ∃ ws rest p, Wrote False out ws rest p (runOpen cfg buffered l).2 ∧
      (c → cfg.patience ≠ 0 →
        (∃ code, (openAndRead cfg (start cfg buffered l)).1 = .ended code true) →
        rest = [] ∨ ∃ f ∈ ws, f.opcode = .close) := by
  obtain heq | ⟨code, flush, hstop, heq⟩ := h
  · obtain ⟨ws, rest, p, hwriter, hcalm⟩ := wrote_finishWriter ho
    rw [heq]
    exact ⟨ws, rest, p, hwriter, fun hc _ _ => (hcalm hc).2⟩
  · obtain ⟨ws, rest, p, hrelease, hcalm⟩ := wrote_release cfg flush ho
    rw [heq, hstop]
    refine ⟨ws, rest, p, hrelease, fun hc hpatience hflush => hcalm hc ?_ hpatience⟩
    obtain ⟨_, hflush⟩ := hflush
    exact (ReadStop.ended.inj hflush).2

/-- The states that a session passes follow from its beginning. -/
theorem course_passes (hp : Permits P cfg.handler)
    (h : Passes cfg (opened cfg (start cfg buffered l)).2 s) :
    ∃ es, Course P { link := l } es s.outbox := by
  obtain ⟨ds, hgoes⟩ := goes_of_passes hp h
  exact ⟨_, (course_opened hp (start cfg buffered l)).trans hgoes.course⟩

/-! ## The peer closes first -/

/-- The Close frame that answers a peer's: it carries the peer's code if that may be sent,
nothing if the peer's carries nothing, and 1000 otherwise. -/
structure IsAnswer (f g : Frame) : Prop where
  code : ∀ code, f.closeCode? = some code → CloseCode.isSendable code = true →
    g = .close code ""
  empty : f.payload = [] → g = { opcode := .close, payload := [] }
  other : f.payload ≠ [] →
    (∀ code, f.closeCode? = some code → CloseCode.isSendable code = false) → g = .close 1000 ""

theorem isAnswer_closeReply (f : Frame) : IsAnswer f (closeReply f) := by
  unfold closeReply
  refine ⟨fun code hcode hs => ?_, fun hempty => ?_, fun hne hs => ?_⟩
  · rw [hcode]
    exact if_pos hs
  · have hnone : f.closeCode? = none := by
      unfold Frame.closeCode?
      rw [hempty]
      cases f.opcode <;> rfl
    rw [hnone, hempty]
    rfl
  · split
    · next code hcode =>
        rw [if_neg (by simp [hs code hcode])]
        rfl
    · rw [if_neg (by simpa using hne)]
      rfl

/-- A Close frame ends the reading. -/
theorem readAll_of_close (hparse : Frame.parse s.buffer cfg.limit = .ok (some (f, n)))
    (hm : f.masked = true) (hf : f.opcode = .close) :
    readAll cfg s = (s.consume n).onClose f := by
  have hstep : step cfg s = (some ((s.consume n).onClose f).1, ((s.consume n).onClose f).2) := by
    simp [step, hparse, onFrame, hm, hf]
  rw [readAll_eq, hstep]

/-- When the answer is accepted the session ends with it. -/
theorem onClose_of_ok (hopen : s.outbox.closing = false)
    (hpost : ({ s.outbox with closing := true }.post (closeReply f)).1 = .ok) :
    (s.onClose f).1 = .ended (f.closeCode?.getD CloseCode.noStatus) true ∧
      closeReply f ∈ (s.onClose f).2.outbox.accepted := by
  have haccepted := accepted_post { s.outbox with closing := true } (closeReply f)
  rw [if_pos hpost] at haccepted
  have hsnd := onClose_snd s f
  rw [if_neg (by simp [hopen])] at hsnd
  refine ⟨?_, by rw [hsnd, haccepted]; exact List.mem_cons_self⟩
  unfold onClose sendControl
  dsimp only
  rw [if_neg (by simp [hopen])]
  generalize { s.outbox with closing := true }.post (closeReply f) = r at hpost ⊢
  obtain ⟨sent, o⟩ := r
  obtain rfl : sent = .ok := hpost
  rfl

/-- A session that is not closing answers a Close frame, with nothing else. -/
theorem closes_onClose (ho : HasOneClose s.outbox) (hopen : s.outbox.closing = false) :
    (s.onClose f).2.outbox.closing = true ∧
      ∀ g ∈ (s.onClose f).2.outbox.closes, g = closeReply f := by
  have hnil : ({ s.outbox with closing := true } : Outbox).closes = [] := ho.open_nil hopen
  obtain ⟨hclosing, hcloses⟩ :=
    closes_post { s.outbox with closing := true } (closeReply f)
  rw [onClose_snd, if_neg (by simp [hopen])]
  refine ⟨hclosing, fun g hg => ?_⟩
  rw [hnil] at hcloses
  obtain hcloses | ⟨_, hcloses⟩ := hcloses
  · rw [hcloses] at hg
    contradiction
  · rw [hcloses] at hg
    exact List.mem_singleton.1 hg

/-- What ends the reading is the Close frame of the peer, when it is reached. -/
theorem openAndRead_of_close {s₀ : Session} {n : Nat} (hopened : (opened cfg s₀).1 = some .returned)
    (hpasses : Passes cfg (opened cfg s₀).2 s)
    (hparse : Frame.parse s.buffer cfg.limit = .ok (some (f, n))) (hm : f.masked = true)
    (hf : f.opcode = .close) : openAndRead cfg s₀ = (s.consume n).onClose f := by
  rw [openAndRead_eq, ← readAll_of_close hparse hm hf, ← readAll_of_passes hpasses]
  generalize opened cfg s₀ = r at hopened ⊢
  obtain ⟨how, s₁⟩ := r
  obtain rfl : how = some .returned := hopened
  rfl

/-- **One Close frame, and nothing after it.** For every handler whose Close frames may be
sent, whatever comes in: what a session writes are the frames it accepted, which are those
that hooks were told are sent, and its own; in order, and perhaps a beginning of the next
one. A Close frame among them is the last, and is whole. No second one is ever accepted, and
none carries a code that may not be sent. A peer that closes while the session is not
closing gets its answer, and no other Close frame. On a calm connection all that is accepted
is written, up to the Close frame that ends the session. -/
theorem runOpen_closes_once (cfg : SessionConfig) (buffered : Bytes) (l : Link)
    (hsends : cfg.handler.Sends Frame.HasSendableCode) :
    (∀ o a f, a.frame? = some f → f.opcode ≠ .close → (perform o a).2.accepted =
      if (perform o a).1 = some true then f :: o.accepted else o.accepted) ∧
    ∃ ws rest p,
      (runOpen cfg buffered l).2.link.sink.output = l.sink.output ++ Frame.encodeAll ws ++ p ∧
      (runOpen cfg buffered l).2.accepted.reverse = ws ++ rest ∧
      (p ≠ [] → ∃ f fs, rest = f :: fs ∧ p <+: f.encode none ∧
        p.length < (f.encode none).length) ∧
      (∀ f ∈ ws.dropLast, f.opcode ≠ .close) ∧
      ((∃ f ∈ ws, f.opcode = .close) → p = []) ∧
      (runOpen cfg buffered l).2.closes.length ≤ 1 ∧
      (∀ f ∈ ws ++ rest, f.HasSendableCode) ∧
      (l.IsCalm → cfg.patience ≠ 0 →
        (∃ code, (openAndRead cfg (start cfg buffered l)).1 = .ended code true) →
        rest = [] ∨ ∃ f ∈ ws, f.opcode = .close) ∧
      ∀ s f n, (opened cfg (start cfg buffered l)).1 = some .returned →
        Passes cfg (opened cfg (start cfg buffered l)).2 s →
        Frame.parse s.buffer cfg.limit = .ok (some (f, n)) → f.masked = true →
        f.opcode = .close → s.outbox.closing = false →
        (∀ g ∈ (runOpen cfg buffered l).2.closes, IsAnswer f g) ∧
          (l.IsCalm → cfg.patience ≠ 0 → ∃ g ∈ ws, IsAnswer f g) := by
  have hp := permits_hasSendableCode hsends
  obtain ⟨ds, hread, _⟩ := course_openAndRead hp (start cfg buffered l)
  obtain ⟨es, o, hlast, hturn⟩ := course_runOpen hp buffered l
  have hcourse := hread.trans hlast
  have hnew : HasOneClose { link := l } := ⟨fun _ => rfl, Nat.zero_le _⟩
  have hwrote {es o} (h : Course Frame.HasSendableCode { link := l } es o) :=
    h.wrote ⟨_, _, _, wrote_new l⟩
  have hcloses : (runOpen cfg buffered l).2.closes = o.closes := by
    rw [closes, closes, hturn.accepted]
  obtain ⟨ws, rest, p, hend, hcalm⟩ := hturn.wrote (hwrote hcourse)
  have hmem : ∀ f, f ∈ ws ++ rest ↔ f ∈ o.accepted := fun f => by
    rw [← hend.accepted, List.mem_reverse, hturn.accepted]
  refine ⟨fun o a f ha hf => accepted_perform ha fun hc => absurd hc hf, ws, rest, p, hend.output,
    hend.accepted, hend.cut, hend.close_last,
    fun hc => (hend.stops hc).1, ?_, fun f hf => ?_, hcalm, ?_⟩
  · rw [hcloses]
    exact (hcourse.hasOneClose hnew).length_le
  · exact hcourse.forall_accepted (fun _ h => absurd h List.not_mem_nil) f ((hmem f).1 hf)
  · intro s f n hopened hpasses hparse hm hf hopen
    obtain ⟨es', hs⟩ := course_passes hp hpasses
    have hconsume : Course Frame.HasSendableCode { link := l } _ (s.consume n).outbox :=
      hs.trans (course_consume s n)
    have hstop := openAndRead_of_close hopened hpasses hparse hm hf
    obtain ⟨hclosing, hreply⟩ := closes_onClose (f := f) (hconsume.hasOneClose hnew) hopen
    rw [hstop] at hlast
    have hsame := (hlast.closes hclosing).2
    have hanswer : ∀ g ∈ o.closes, IsAnswer f g := by
      intro g hg
      rw [hsame] at hg
      rw [hreply g hg]
      exact isAnswer_closeReply f
    refine ⟨by rw [hcloses]; exact hanswer, fun hl hpatience => ?_⟩
    obtain ⟨ws₁, rest₁, p₁, hw⟩ := hwrote hconsume
    have hclosing₁ : Wrote l.IsCalm l.sink.output ws₁ rest₁ p₁
        { (s.consume n).outbox with closing := true } :=
      hw.congr rfl rfl rfl rfl fun hc => ⟨hc, id⟩
    have hnone : ∀ g ∈ (s.consume n).outbox.accepted, g.opcode ≠ .close := by
      have hnil := (hconsume.hasOneClose hnew).open_nil hopen
      simpa [closes] using hnil
    have hpost := hclosing₁.post_eq_ok hl hnone (closeReply f)
    obtain ⟨hcode, haccepted⟩ := onClose_of_ok (s := s.consume n) hopen hpost
    have hmemCloses : ∀ {o : Outbox} g, g ∈ o.accepted → g.opcode = .close → g ∈ o.closes :=
      fun g hg hclose => List.mem_filter.2 ⟨hg, decide_eq_true hclose⟩
    obtain rfl | ⟨g, hg, hclose⟩ := hcalm hl hpatience ⟨_, by rw [hstop, hcode]⟩
    · have hsent : closeReply f ∈ o.closes :=
        hsame ▸ hmemCloses _ haccepted (hp.closeReply f).2
      refine ⟨closeReply f, ?_, isAnswer_closeReply f⟩
      rw [← List.append_nil ws, hmem]
      exact (List.mem_filter.1 hsent).1
    · exact ⟨g, hg, hanswer g (hmemCloses g ((hmem g).1 (List.mem_append_left _ hg)) hclose)⟩

/-- A handler that greets. -/
def greeting : SessionConfig where
  handler := { name := "greeting", onOpen := .perform (.text "hi") fun _ => .finish .returned }
  limit := 100
  patience := 50

/-- The peer closes at once, with a code of its own. -/
theorem runOpen_closes_once_of_peer :
    let close : Frame := { Frame.close 3000 "bye" with masked := true }
    let buffered := close.encode (some ⟨1, 2, 3, 4⟩)
    greeting.handler.Sends Frame.HasSendableCode ∧ ({} : Link).IsCalm ∧
      (opened greeting (start greeting buffered {})).1 = some .returned ∧
      Frame.parse buffered 100 = .ok (some (close, buffered.length)) ∧
      ∃ ws rest p, (runOpen greeting buffered {}).2.link.sink.output = Frame.encodeAll ws ++ p ∧
        (runOpen greeting buffered {}).2.accepted.reverse = ws ++ rest ∧
        (runOpen greeting buffered {}).2.closes = [.close 3000 ""] ∧
        ∃ g ∈ ws, g = .close 3000 "" := by
  intro close buffered
  have htext : (Frame.text "hi").HasSendableCode := fun hclose => Opcode.noConfusion hclose
  have hsends : greeting.handler.Sends Frame.HasSendableCode :=
    ⟨⟨fun f hf => Option.some.inj hf ▸ htext, fun _ => trivial⟩, fun _ _ => trivial,
      fun _ => trivial⟩
  have hcalm : ({} : Link).IsCalm := ⟨⟨by decide, rfl, rfl⟩, rfl, by simp [Link.IsUndisturbed]⟩
  have hopened : (opened greeting (start greeting buffered {})).1 = some .returned := by
    decide +kernel
  have hparse : Frame.parse buffered 100 = .ok (some (close, buffered.length)) := by
    decide +kernel
  obtain ⟨_, ws, rest, p, hout, haccepted, _, _, _, _, _, _, hpeer⟩ :=
    runOpen_closes_once greeting buffered {} hsends
  obtain ⟨_, hanswer⟩ := hpeer _ close _ hopened .refl hparse rfl rfl (by decide +kernel)
  obtain ⟨g, hg, hreply⟩ := hanswer hcalm (by decide)
  exact ⟨hsends, hcalm, hopened, hparse, ws, rest, p, hout, haccepted, by decide +kernel,
    g, hg, hreply.code 3000 (by decide +kernel) rfl⟩

end Session

end WebSocket

end WebServer
