import WebServer.Proofs.WebSocket.Lifetime
import WebServer.Proofs.WebSocket.Transcript
import WebServer.Proofs.WebSocket.Written

/-!
# WebServer.Proofs.WebSocket.Listening

A session whose handler hears the client out: it takes all messages whole, returns from
every hook, and never closes. What is still to come from the client, be it in the buffer or
on the way, determines what the session does (`Expects`): each step hands over just what the
transcript of these bytes says next (`follows_step`).

Main statement: the calls of the handler are the transcript of the client's bytes, however
they are cut into pieces (`runOpen_of_delivers`).
-/

namespace WebServer

namespace WebSocket

open Filter Outbox

/-- The handler takes all messages whole, returns from every hook, and never closes. -/
structure Handler.HearsOut (h : Handler) : Prop where
  takes : ∀ kind, h.capability.takes kind = true
  whole : h.capability.streaming = false
  onOpen : h.onOpen.Ends (· = .returned)
  onDelivery : ∀ earlier d, (h.onDelivery earlier d).Ends (· = .returned)
  onClose : ∀ code, (h.onClose code).Ends (· = .returned)
  sends : h.Sends (·.opcode ≠ .close)

namespace Session

variable {cfg : SessionConfig} {last : Nat} {bs : Bytes} {state : SockState} {o o' : Outbox}
  {s : Session} {f : Frame} {n : Nat}

/-! ## Hooks -/

/-- The bytes that are still to be read, the state of the sock, and a closing handshake that
has not begun. -/
structure Steady (last : Nat) (bs : Bytes) (state : SockState) (o : Outbox) : Prop where
  delivers : o.link.Delivers last bs
  state_eq : o.link.sock.state = state
  closing : o.closing = false
  flows : Flows o

theorem Steady.turn (h : Steady last bs state o) (ht : Turn o o') : Steady last bs state o' where
  delivers := by
    rw [ht.link]
    exact h.delivers.congr rfl rfl rfl rfl
  state_eq := ht.state.trans h.state_eq
  closing := ht.closing.trans h.closing
  flows := h.flows.turn ht

theorem Steady.log (h : Steady last bs state o) (e : Event) :
    Steady last bs state { o with link := o.link.log e } :=
  ⟨h.delivers.congr rfl rfl rfl rfl, h.state_eq, h.closing, ⟨h.flows.stall, h.flows.writer⟩⟩

theorem Steady.logCall (h : Steady last bs state o) (cfg : SessionConfig) (e : Event) :
    Steady last bs state (Session.log cfg o e) := by
  unfold Session.log
  split
  · exact h
  · exact h.log e

theorem Steady.post (h : Steady last bs state o) (f : Frame) :
    Steady last bs state (o.post f).2 := by
  generalize hpost : o.post f = posted
  have hposts := posts_post o f
  rw [hpost] at hposts
  cases hposts with
  | failed ht _ _ => exact h.turn ht
  | @ok o₁ ht _ _ =>
      have h₁ := h.turn ht
      exact ⟨h₁.delivers, h₁.state_eq, h₁.closing, ⟨h₁.flows.stall, h₁.flows.writer⟩⟩
  | stuck hw => exact absurd hw (h.turn (turn_flush o)).flows.writer

theorem Steady.noticeClose (h : Steady last bs state o) :
    Steady last bs state o.noticeClose := by
  have hflows := h.flows.noticeClose
  unfold Outbox.noticeClose at hflows ⊢
  split
  · next hc =>
      rw [if_pos hc] at hflows
      exact ⟨h.delivers.congr rfl rfl rfl rfl, h.state_eq, h.closing, hflows⟩
  · exact h

theorem Steady.await (h : Steady last bs state o) {α : Type} (ready : Link → Option α)
    (d : Option Nat) : Steady last bs state { o with link := (o.link.await ready d).2 } := by
  obtain ⟨hdel, hsame⟩ := Link.delivers_await h.delivers ready d
  refine ⟨hdel, ?_, h.closing, ⟨?_, h.flows.writer⟩⟩
  · exact (congrArg Sock.state hsame.sock).trans h.state_eq
  · exact (congrArg Sink.stall hsame.sink).trans h.flows.stall

theorem Steady.sleep (h : Steady last bs state o) (ms : Nat) :
    Steady last bs state (o.sleep ms).2 := by
  unfold Outbox.sleep
  split
  · exact h
  · have hwait := (h.turn (turn_flush o)).await (α := Unit) (fun _ => none)
      (some (o.flush.link.now + ms))
    dsimp only
    split
    · next hs =>
        rw [hs] at hwait
        exact hwait.noticeClose
    · next hs =>
        rw [hs] at hwait
        exact hwait

theorem Steady.perform (h : Steady last bs state o) {a : Action}
    (ha : ∀ f ∈ a.frame?, f.opcode ≠ .close) : Steady last bs state (perform o a).2 := by
  have hsend : ∀ f : Frame, Steady last bs state (ofSent (o.send f)).2 := by
    intro f
    rw [Outbox.send, if_neg (by simp [h.closing])]
    have hpost := h.post f
    generalize o.post f = r at hpost
    obtain ⟨sent, o₁⟩ := r
    cases sent with
    | ok | stuck => exact hpost
    | failed => exact hpost.log _
  cases a with
  | text | binary | ping => exact hsend _
  | close code reason => exact absurd rfl (ha _ rfl)
  | delay ms =>
      have hsleep := h.sleep ms
      rw [Session.perform]
      split <;> next hs => rwa [hs] at hsleep
  | isClosing => exact h.log _

/-- A hook that never closes reads nothing and leaves the sock as it is. -/
theorem Steady.runHook {p : Program} (h : Steady last bs state o)
    (hp : p.Sends (·.opcode ≠ .close)) : Steady last bs state (runHook p o).2 := by
  induction p generalizing o with
  | finish => exact h
  | perform a next ih =>
      have hperform := h.perform hp.1
      rw [Session.runHook]
      split
      · next answer o₁ ha =>
          rw [ha] at hperform
          exact ih answer hperform (hp.2 answer)
      · next o₁ ha =>
          rw [ha] at hperform
          exact hperform

/-! ## Between two frames -/

/-- The session holds or is still to receive exactly these bytes. -/
structure Expects (cfg : SessionConfig) (last : Nat) (bs : Bytes) (state : SockState)
    (s : Session) : Prop where
  coming : ∃ rest, bs = s.buffer ++ rest ∧ Steady last rest state s.outbox
  limit_eq : s.reassembler.limit = cfg.limit

/-- What the client says next, behind the message that has begun. -/
def upcoming (cfg : SessionConfig) (s : Session) (bs : Bytes) : List Message × Ending :=
  transcript cfg.limit s.reassembler.partialMessage bs

/-- What a step does is what the client says next, unless it never ends. -/
inductive Follows (cfg : SessionConfig) (last : Nat) (s : Session) (bs : Bytes) :
    Option ReadStop × Session → Prop where
  | goesOn {m? : Option Message} {bs' : Bytes} {state : SockState} {s' : Session} :
      upcoming cfg s bs = (m?.toList ++ (upcoming cfg s' bs').1, (upcoming cfg s' bs').2) →
      state.isWaiting = true → Expects cfg last bs' state s' →
      s'.outbox.link.calls =
        s.outbox.link.calls ++ recorded cfg (m?.toList.map (.delivered <| .message ·)) →
      Follows cfg last s bs (none, s')
  | ends {ending : Ending} {flush : Bool} {s' : Session} :
      upcoming cfg s bs = ([], ending) → s'.outbox.closing = ending.isClosing →
      s'.outbox.link.calls = s.outbox.link.calls →
      Follows cfg last s bs (some (.ended ending.code flush), s')
  | stuck {s' : Session} : Follows cfg last s bs (some .stuck, s')

variable {s' s₀ : Session} {bs' : Bytes} {e : FrameError}

/-- The client has said nothing that the handler gets. -/
theorem Follows.silent (hup : upcoming cfg s bs = upcoming cfg s' bs')
    (hw : state.isWaiting = true) (h : Expects cfg last bs' state s')
    (hcalls : s'.outbox.link.calls = s.outbox.link.calls) : Follows cfg last s bs (none, s') := by
  have hup : upcoming cfg s bs =
      ((none : Option Message).toList ++ (upcoming cfg s' bs').1, (upcoming cfg s' bs').2) := hup
  refine .goesOn hup hw h ?_
  rw [Option.toList_none, List.map_nil, recorded_nil, List.append_nil]
  exact hcalls

/-! ## Ends -/

theorem closing_close (o : Outbox) (code : UInt16) (reason : String) :
    (o.close code reason).2.closing = true := by
  unfold Outbox.close
  split
  · assumption
  · exact (closes_post { o with closing := true } _).1

/-- A session that fails ends as the transcript says. -/
theorem follows_fail (hup : upcoming cfg s bs = ([], .broken e))
    (hcalls : s₀.outbox.link.calls = s.outbox.link.calls) :
    Follows cfg last s bs (some (s₀.fail e.closeCode).1, (s₀.fail e.closeCode).2) := by
  have hfail : Goes (fun _ => True) cfg s₀ (s₀.fail e.closeCode).2 [] := goes_fail trivial
  have hsame := hfail.course.calls
  rw [List.map_nil, recorded_nil, List.append_nil, hcalls] at hsame
  have hclosing := closing_close s₀.outbox e.closeCode ""
  have hstop : (s₀.fail e.closeCode).1 = .stuck ∨
      ∃ flush, (s₀.fail e.closeCode).1 = .ended e.closeCode flush := by
    unfold fail
    split
    · exact .inr ⟨true, rfl⟩
    · exact .inr ⟨false, rfl⟩
    · exact .inl rfl
  rw [fail_snd] at hsame ⊢
  obtain hstop | ⟨flush, hstop⟩ := hstop
  · rw [hstop]
    exact .stuck
  · rw [hstop]
    show Follows cfg last s bs (some (.ended (Ending.broken e).code flush), _)
    exact .ends hup hclosing hsame

theorem sendControl_fst (s : Session) (f : Frame) :
    (s.sendControl f).1 = none ∨ (s.sendControl f).1 = some .stuck := by
  unfold sendControl
  split
  · exact .inr rfl
  · exact .inl rfl

/-- A session that the client closes ends as the transcript says. -/
theorem follows_onClose (hup : upcoming cfg s bs = ([], .closed f.closeCode?))
    (hcalls : s₀.outbox.link.calls = s.outbox.link.calls) :
    Follows cfg last s bs (some (s₀.onClose f).1, (s₀.onClose f).2) := by
  have hclose : Goes (fun _ => True) cfg s₀ (s₀.onClose f).2 [] := goes_onClose (permits_true _)
  have hsame := hclose.course.calls
  rw [List.map_nil, recorded_nil, List.append_nil, hcalls] at hsame
  have hclosing : (s₀.onClose f).2.outbox.closing = true := by
    rw [onClose_snd]
    split
    · assumption
    · exact (closes_post { s₀.outbox with closing := true } _).1
  have hstop : (s₀.onClose f).1 = .stuck ∨
      (s₀.onClose f).1 = .ended (Ending.closed f.closeCode?).code true := by
    have hsend := sendControl_fst { s₀ with outbox := { s₀.outbox with closing := true } }
      (closeReply f)
    unfold onClose
    dsimp only
    split
    · exact .inr rfl
    · split
      · next stop s₁ hs =>
          rw [hs] at hsend
          exact .inl (by simpa using hsend)
      · exact .inr rfl
  obtain hstop | hstop := hstop
  · rw [hstop]
    exact .stuck
  · rw [hstop]
    exact .ends hup hclosing hsame

/-! ## Frames -/

theorem Expects.consume (h : Expects cfg last bs state s) (hn : n ≤ s.buffer.length) :
    Expects cfg last (bs.drop n) state (s.consume n) := by
  obtain ⟨⟨rest, rfl, hsteady⟩, hlimit⟩ := h
  refine ⟨⟨rest, List.drop_append_of_le_length hn, ?_⟩, hlimit⟩
  exact ⟨hsteady.delivers.congr rfl rfl rfl rfl, hsteady.state_eq, hsteady.closing,
    ⟨hsteady.flows.stall, hsteady.flows.writer⟩⟩

/-- Only the sending side has moved. -/
theorem Expects.withOutbox (h : Expects cfg last bs state s)
    (ho : ∀ rest, Steady last rest state s.outbox → Steady last rest state o) :
    Expects cfg last bs state { s with outbox := o } := by
  obtain ⟨⟨rest, hbs, hsteady⟩, hlimit⟩ := h
  exact ⟨⟨rest, hbs, ho rest hsteady⟩, hlimit⟩

/-- A sock that was claimed waits again. -/
theorem Expects.endCycle (h : Expects cfg last bs .processing s) :
    Expects cfg last bs .idle s.endCycle := by
  obtain ⟨⟨rest, hbs, hsteady⟩, hlimit⟩ := h
  refine ⟨⟨rest, hbs, hsteady.delivers.congr rfl rfl rfl rfl, ?_, hsteady.closing,
    ⟨hsteady.flows.stall, hsteady.flows.writer⟩⟩, hlimit⟩
  exact congrArg (fun r => r.2.state) (Sock.endCycle_of_processing _ hsteady.state_eq)

/-- The session when the sock has been claimed for a frame. -/
def claimed (s : Session) (r : Reassembler) : Session :=
  let sock := { s.outbox.link.sock with state := .processing }
  { s with outbox := { s.outbox with link := { s.outbox.link with sock } }, reassembler := r }

theorem claim_of_waiting (cfg : SessionConfig) (f : Frame)
    (hw : s.outbox.link.sock.state.isWaiting = true) :
    s.claim cfg f = some ((delivery cfg s.reassembler f).1,
      s.claimed (delivery cfg s.reassembler f).2) := by
  rw [claim, Link.onSock, Sock.beginCycle_of_isWaiting hw]
  rfl

theorem Expects.claimed (h : Expects cfg last bs state s) (begun : Option (Kind × Bytes)) :
    Expects cfg last bs .processing
      (s.claimed { s.reassembler with partialMessage := begun }) := by
  obtain ⟨⟨rest, hbs, hsteady⟩, hlimit⟩ := h
  exact ⟨⟨rest, hbs, hsteady.delivers.congr rfl rfl rfl rfl, rfl, hsteady.closing,
    ⟨hsteady.flows.stall, hsteady.flows.writer⟩⟩, hlimit⟩

/-- A data frame gives a handler that hears the client out what the transcript says. -/
theorem delivery_of_hearsOut (hh : cfg.handler.HearsOut) {r : Reassembler}
    (hlimit : r.limit = cfg.limit) (hdata : f.opcode.isControl = false) :
    match said cfg.limit r.partialMessage f with
    | .error e => (delivery cfg r f).1 = .error e.closeCode
    | .ok (m?, begun) => delivery cfg r f =
        (.ok (m?.map .message), { r with partialMessage := begun }) := by
  have hanswers := answers_push r hdata
  have hdelivery : delivery cfg r f =
      match r.push f with
      | (.error e, r) => (.error e.closeCode, r)
      | (.ok m?, r) => (.ok (m?.map .message), r) := by
    rw [delivery, hh.whole]
    generalize r.push f = answer
    obtain ⟨answer, r'⟩ := answer
    match answer with
    | .error e | .ok none => rfl
    | .ok (some m) => simp [Delivery.kind, hh.takes]
  rw [hlimit] at hanswers
  rw [hdelivery]
  generalize r.push f = answer at hanswers
  cases hs : said cfg.limit r.partialMessage f with
  | error e =>
      obtain ⟨answer, r'⟩ := answer
      rw [hs] at hanswers
      obtain rfl : answer = .error e := hanswers
      rfl
  | ok given =>
      obtain ⟨m?, begun⟩ := given
      rw [hs] at hanswers
      obtain rfl : answer = (.ok m?, { r with partialMessage := begun }) := hanswers
      rfl

theorem Expects.handOver (hh : cfg.handler.HearsOut) (h : Expects cfg last bs state s)
    (d : Delivery) : Expects cfg last bs state (handOver cfg s d).2 := by
  obtain ⟨⟨rest, hbs, hsteady⟩, hlimit⟩ := h
  refine ⟨⟨rest, hbs, ?_⟩, hlimit⟩
  exact (hsteady.logCall cfg (.delivered d)).runHook (hh.sends.onDelivery s.earlier d)

/-- The handler gets the message that the client has said, and the sock waits again. -/
theorem follows_handOver (hh : cfg.handler.HearsOut) {m : Message}
    (h : Expects cfg last bs' .processing s₀)
    (hcalls : s₀.outbox.link.calls = s.outbox.link.calls)
    (hup : upcoming cfg s bs = (m :: (upcoming cfg s₀ bs').1, (upcoming cfg s₀ bs').2)) :
    Follows cfg last s bs (afterDelivery (handOver cfg s₀ (.message m))) := by
  have hexpects := h.handOver hh (.message m)
  have hgoes : Goes (fun _ => True) cfg s₀ (handOver cfg s₀ (.message m)).2 [.message m] :=
    goes_handOver (permits_true _) (.message m)
  have hsame := hgoes.course.calls
  have hends : ∀ how, (handOver cfg s₀ (.message m)).1 = some how → how = .returned :=
    fun how hrun =>
      ends_of_runHook (Q := (· = .returned)) (hh.onDelivery s₀.earlier (.message m)) hrun
  have hreassembler : (handOver cfg s₀ (.message m)).2.reassembler = s₀.reassembler := rfl
  generalize handOver cfg s₀ (.message m) = r at hexpects hsame hends hreassembler ⊢
  obtain ⟨how, s₁⟩ := r
  cases how with
  | none => exact .stuck
  | some how =>
      obtain rfl := hends how rfl
      have hupcoming : upcoming cfg s₁.endCycle bs' = upcoming cfg s₀ bs' := by
        rw [upcoming, upcoming]
        exact congrArg (fun r : Reassembler => transcript _ r.partialMessage _) hreassembler
      have hup : upcoming cfg s bs = ((some m).toList ++ (upcoming cfg s₁.endCycle bs').1,
          (upcoming cfg s₁.endCycle bs').2) := by
        rw [hupcoming]
        exact hup
      refine .goesOn hup rfl hexpects.endCycle ?_
      rw [hcalls] at hsame
      exact hsame

/-- A data frame of the client is taken as the transcript says. -/
theorem follows_onData (hh : cfg.handler.HearsOut) (h : Expects cfg last bs' state s₀)
    (hw : state.isWaiting = true) (hdata : f.opcode.isControl = false)
    (hcalls : s₀.outbox.link.calls = s.outbox.link.calls)
    (hup : upcoming cfg s bs = andThen cfg.limit bs'
      ((said cfg.limit s₀.reassembler.partialMessage f).mapError .broken)) :
    Follows cfg last s bs (onData cfg s₀ f) := by
  obtain ⟨rest, hbs, hsteady⟩ := h.coming
  have hdelivery := delivery_of_hearsOut hh h.limit_eq hdata
  have hclaim := claim_of_waiting cfg f (s := s₀) (by rw [hsteady.state_eq]; exact hw)
  rw [onData, hclaim]
  cases hs : said cfg.limit s₀.reassembler.partialMessage f with
  | error e =>
      rw [hs] at hdelivery hup
      rw [hdelivery]
      exact follows_fail hup hcalls
  | ok given =>
      obtain ⟨m?, begun⟩ := given
      rw [hs] at hdelivery hup
      have hgiven : (delivery cfg s₀.reassembler f).1 = .ok (m?.map .message) :=
        congrArg Prod.fst hdelivery
      have hreassembler : (delivery cfg s₀.reassembler f).2 =
          { s₀.reassembler with partialMessage := begun } := congrArg Prod.snd hdelivery
      have hclaimed := h.claimed begun
      rw [hgiven, hreassembler]
      cases m? with
      | none =>
          have hend := hclaimed.endCycle
          exact .silent hup rfl hend hcalls
      | some m => exact follows_handOver hh hclaimed hcalls hup

/-- A ping is answered, and says nothing. -/
theorem follows_sendControl (h : Expects cfg last bs' state s₀) (hw : state.isWaiting = true)
    (hcalls : s₀.outbox.link.calls = s.outbox.link.calls)
    (hup : upcoming cfg s bs = upcoming cfg s₀ bs') :
    Follows cfg last s bs (s₀.sendControl (.pong f.payload)) := by
  have hexpects := h.withOutbox fun rest hsteady => hsteady.post (.pong f.payload)
  have hmove : Move (fun _ => True) s₀.outbox (s₀.outbox.post (.pong f.payload)).2 :=
    .send trivial Opcode.noConfusion
  have hsame := (calls_move hmove).trans hcalls
  have hsnd := sendControl_snd s₀ (.pong f.payload)
  obtain hfst | hfst := sendControl_fst s₀ (.pong f.payload)
  · rw [← Prod.mk.eta (p := s₀.sendControl (.pong f.payload)), hfst, hsnd]
    exact .silent hup hw hexpects hsame
  · rw [← Prod.mk.eta (p := s₀.sendControl (.pong f.payload)), hfst]
    exact .stuck

/-- A frame of the client is taken as the transcript says. -/
theorem follows_onFrame (hh : cfg.handler.HearsOut) (h : Expects cfg last bs' state s₀)
    (hw : state.isWaiting = true) (hcalls : s₀.outbox.link.calls = s.outbox.link.calls)
    (hup : upcoming cfg s bs =
      andThen cfg.limit bs' (heard cfg.limit s₀.reassembler.partialMessage f)) :
    Follows cfg last s bs (onFrame cfg s₀ f) := by
  obtain ⟨rest, hbs, hsteady⟩ := h.coming
  unfold heard at hup
  unfold onFrame
  by_cases hm : f.masked = true
  · rw [hm] at hup ⊢
    cases hop : f.opcode with
    | close =>
        rw [hop] at hup
        exact follows_onClose hup hcalls
    | ping =>
        rw [hop] at hup
        exact follows_sendControl h hw hcalls hup
    | pong =>
        rw [hop] at hup
        exact .silent hup hw h hcalls
    | text | binary | continuation =>
        rw [hop] at hup
        exact follows_onData hh h hw (by rw [hop]; rfl) hcalls hup
  · rw [Bool.not_eq_true] at hm
    rw [hm] at hup ⊢
    exact follows_fail hup hcalls

/-! ## Reading -/

/-- A session that is not closing reads on, finds that the client has left, or waits for
ever. -/
theorem receive_of_steady {rest : Bytes} (h : Steady last rest state o)
    (hw : state.isWaiting = true) :
    (∃ p rest', (o.receive none).1 = .arrived (.bytes p) ∧ rest = p ++ rest' ∧
        Steady last rest' state (o.receive none).2) ∨
      ((o.receive none).1 = .arrived .eof ∧ rest = [] ∧ Steady last [] state (o.receive none).2) ∨
      (o.receive none).1 = .stuck := by
  have hread : Steady last rest state (beforeRead o) := by
    unfold beforeRead
    split
    · exact h
    · exact h.turn (turn_flush o)
  have hopen : ∀ l', (beforeRead o).link.SameServer l' → l'.sock.isClosed = false := by
    intro l' hsame
    rw [hsame.sock]
    exact Sock.isClosed_of_isWaiting (by rw [hread.state_eq]; exact hw)
  obtain ⟨hsame, hreceive⟩ := Link.receive_none_of_delivers hopen hread.delivers
  have hsteady : ∀ {rest' l'}, (beforeRead o).link.SameServer l' → l'.Delivers last rest' →
      Steady last rest' state ({ beforeRead o with link := l' } : Outbox).noticeClose := by
    intro rest' l' hsame hdel
    refine Steady.noticeClose ⟨hdel, ?_, hread.closing, ⟨?_, hread.flows.writer⟩⟩
    · exact (congrArg Sock.state hsame.sock).trans hread.state_eq
    · exact (congrArg Sink.stall hsame.sink).trans hread.flows.stall
  rw [receive_eq]
  obtain ⟨p, rest', hbytes, hrest, hdel⟩ | ⟨heof, hrest, hdel⟩ | hstuck := hreceive
  · exact .inl ⟨p, rest', hbytes, hrest, hsteady hsame hdel⟩
  · exact .inr (.inl ⟨heof, hrest, hsteady hsame hdel⟩)
  · exact .inr (.inr hstuck)

/-- Reading more does not change what the client says. -/
theorem follows_readMore (h : Expects cfg last bs state s) (hw : state.isWaiting = true)
    (hparse : Frame.parse s.buffer cfg.limit = .ok none) :
    Follows cfg last s bs (readMore cfg s) := by
  obtain ⟨⟨rest, rfl, hsteady⟩, hlimit⟩ := h
  have hcalls := (course_receive (P := fun _ => True) (o := s.outbox) none).calls
  have hreceive := receive_of_steady hsteady hw
  rw [List.append_nil] at hcalls
  rw [readMore, if_neg (by simp [hsteady.closing])]
  generalize s.outbox.receive none = got at hcalls hreceive ⊢
  obtain ⟨got, o'⟩ := got
  obtain ⟨p, rest', hbytes, rfl, hsteady'⟩ | ⟨heof, rfl, hsteady'⟩ | hstuck := hreceive
  · obtain rfl : got = .arrived (.bytes p) := hbytes
    refine .silent rfl hw ⟨⟨rest', ?_, hsteady'⟩, hlimit⟩ hcalls
    exact (List.append_assoc _ _ _).symm
  · obtain rfl : got = .arrived .eof := heof
    have hup : upcoming cfg s (s.buffer ++ []) = ([], .left) := by
      rw [upcoming, List.append_nil]
      exact transcript_of_none hparse
    show Follows cfg last s _ (some (.ended Ending.left.code false), _)
    exact .ends hup hsteady'.closing hcalls
  · obtain rfl : got = .stuck := hstuck
    exact .stuck

/-- **A step does what the client says next.** -/
theorem follows_step (hh : cfg.handler.HearsOut) (h : Expects cfg last bs state s)
    (hw : state.isWaiting = true) : Follows cfg last s bs (step cfg s) := by
  obtain ⟨rest, hbs, hsteady⟩ := h.coming
  cases hparse : Frame.parse s.buffer cfg.limit with
  | error e =>
      have hup : upcoming cfg s bs = ([], .broken e) := by
        rw [upcoming, hbs]
        exact transcript_of_error (Frame.parse_append_of_error hparse rest)
      rw [step, hparse]
      exact follows_fail hup rfl
  | ok read =>
      cases read with
      | none =>
          rw [step, hparse]
          exact follows_readMore h hw hparse
      | some read =>
          obtain ⟨f, n⟩ := read
          have hup : upcoming cfg s bs = andThen cfg.limit (bs.drop n)
              (heard cfg.limit s.reassembler.partialMessage f) := by
            rw [upcoming, hbs]
            exact transcript_of_some (Frame.parse_append_of_some hparse rest)
          rw [step, hparse]
          exact follows_onFrame hh (h.consume (Frame.isRead_of_parse hparse).le_length) hw rfl hup

/-- Reading to the end hands over the messages of the client, and ends as the client does. -/
theorem calls_readAll (hh : cfg.handler.HearsOut) {code : UInt16} {flush : Bool}
    (h : Expects cfg last bs state s) (hw : state.isWaiting = true)
    (hread : readAll cfg s = (.ended code flush, s')) :
    s'.outbox.link.calls = s.outbox.link.calls ++
        recorded cfg ((upcoming cfg s bs).1.map (.delivered <| .message ·)) ∧
      code = (upcoming cfg s bs).2.code ∧
      s'.outbox.closing = (upcoming cfg s bs).2.isClosing := by
  induction s using reading_induction cfg generalizing bs state with
  | h s ih =>
      have hfollows := follows_step hh h hw
      rw [readAll_eq] at hread
      generalize hstep : step cfg s = r at hfollows hread
      cases hfollows with
      | @goesOn m? bs' state' s₁ hup hw' hexpects hcalls =>
          obtain ⟨hcalls', hcode, hclosing⟩ := ih s₁ hstep hexpects hw' hread
          rw [hup, List.map_append, recorded_append, ← List.append_assoc, ← hcalls]
          exact ⟨hcalls', hcode, hclosing⟩
      | @ends ending flush' s₁ hup hclosing hcalls =>
          obtain ⟨hstop, rfl⟩ := Prod.mk.inj hread
          obtain ⟨rfl, rfl⟩ := ReadStop.ended.inj hstop
          rw [hup, List.map_nil, recorded_nil, List.append_nil]
          exact ⟨hcalls, rfl, hclosing⟩
      | stuck => simp at hread

/-! ## Whole sessions -/

/-- The calls of a handler that hears out a client that sends these bytes. -/
def hearing (limit : Nat) (bs : Bytes) : List Event :=
  let (ms, ending) := transcript limit none bs
  .opened :: ms.map (.delivered <| .message ·) ++ [.ended ending.code ending.isClosing]

/-- A session that comes to its end has heard the client out. -/
theorem calls_runOpen (hh : cfg.handler.HearsOut) {l : Link} {buffered rest : Bytes}
    (hl : l.Delivers last rest) (hw : l.sock.state.isWaiting = true) (hs : l.sink.stall = none)
    (hrun : (runOpen cfg buffered l).1 = true) :
    (runOpen cfg buffered l).2.link.calls =
      l.calls ++ recorded cfg (hearing cfg.limit (buffered ++ rest)) := by
  have hstart : Steady last rest l.sock.state (start cfg buffered l).outbox :=
    ⟨hl, rfl, rfl, ⟨hs, by simp [start]⟩⟩
  have hopened := (hstart.logCall cfg .opened).runHook hh.sends.onOpen
  have hcalls : (opened cfg (start cfg buffered l)).2.outbox.link.calls =
      l.calls ++ recorded cfg [.opened] :=
    (course_opened (permits_true cfg.handler) (start cfg buffered l)).calls
  have hexpects : Expects cfg last (buffered ++ rest) l.sock.state
      (opened cfg (start cfg buffered l)).2 := ⟨⟨rest, rfl, hopened⟩, rfl⟩
  have hup : upcoming cfg (opened cfg (start cfg buffered l)).2 (buffered ++ rest) =
      transcript cfg.limit none (buffered ++ rest) := rfl
  have hends : ∀ how, (opened cfg (start cfg buffered l)).1 = some how → how = .returned :=
    fun how hhow => ends_of_runHook (Q := (· = .returned)) hh.onOpen hhow
  rw [runOpen, openAndRead_eq] at hrun ⊢
  generalize opened cfg (start cfg buffered l) = r at *
  obtain ⟨how, s⟩ := r
  cases how with
  | none => simp at hrun
  | some how =>
      obtain rfl := hends how rfl
      dsimp only at hrun hcalls hexpects hup ⊢
      cases hread : readAll cfg s with
      | mk stop s' =>
          rw [hread] at hrun
          cases stop with
          | stuck => simp at hrun
          | ended code flush =>
              obtain ⟨hcalls', rfl, hclosing⟩ := calls_readAll hh hexpects hw hread
              rw [hup] at hcalls' hclosing ⊢
              dsimp only
              rw [calls_finish, hclosing, hcalls', hcalls, List.append_assoc, List.append_assoc,
                ← recorded_append, ← recorded_append]
              rfl

/-- The stream of a client that sends its bytes and leaves ends. -/
theorem leaves_of_delivers {l : Link} (h : l.Delivers last bs) : l.Leaves := by
  have hleaves : ∀ {now timeline bs}, Link.Sends last now timeline bs →
      ∃ e ∈ timeline, e.2 = .eof ∨ e.2 = .reset ∨ e.2 = .close := by
    intro now timeline bs hs
    induction hs with
    | leaves => exact ⟨_, List.mem_cons_self, .inl rfl⟩
    | piece _ _ _ _ ih =>
        obtain ⟨e, he, hact⟩ := ih
        exact ⟨e, List.mem_cons_of_mem _ he, hact⟩
  cases h with
  | sending _ hs => exact .inr (.inr (hleaves hs))
  | left he _ => exact .inl (by simp [he])

/-- **A handler that hears the client out gets all that the client says.** The bytes of the
client are parsed as one, however they come, and whichever of them were read before the
session began. The session comes to its end, and the calls of the handler are the opening,
each message of the client once and in order, and the end with its code. -/
theorem runOpen_of_delivers (hh : cfg.handler.HearsOut) {l : Link} {buffered rest : Bytes}
    (hl : l.Delivers last rest) (hw : l.sock.state.isWaiting = true)
    (hs : l.sink.stall = none) :
    ∀ᶠ h in atTop, (runOpen cfg buffered (l.withHorizon h)).1 = true ∧
      (runOpen cfg buffered (l.withHorizon h)).2.link.calls =
        l.calls ++ recorded cfg (hearing cfg.limit (buffered ++ rest)) := by
  have hclose : ∀ code, (cfg.handler.onClose code).Ends (· ≠ .panicked) := fun code =>
    (hh.onClose code).mono fun how hhow => by simp [hhow]
  filter_upwards [runOpen_settles cfg buffered hs hclose] with h hsettles
  have hl' : (l.withHorizon h).Delivers last rest := hl.congr rfl rfl rfl rfl
  have hdone := hsettles.resolve_right fun hwaits =>
    hwaits.not_leaves (leaves_of_delivers hl')
  exact ⟨hdone, calls_runOpen hh hl' hw hs hdone⟩

end Session

end WebSocket

end WebServer
