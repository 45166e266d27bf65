import WebServer.Proofs.WebSocket.Frame
import WebServer.Proofs.WebSocket.Outbox

/-!
# WebServer.Proofs.WebSocket.Written

What a session writes. Whatever the order of the moves, the client has been written frames
in the order in which they were accepted, and nothing behind a Close frame (`Wrote.move`),
and one Close frame at most is ever accepted (`HasOneClose.move`).
-/

namespace WebServer

namespace WebSocket

namespace Outbox

variable {P : Frame → Prop} {o o' : Outbox} {f : Frame} {c : Prop} {out : Bytes}
  {ws rest : List Frame} {p : Bytes} {es : List Event}

/-! ## What the client has been written -/

/-- Behind `out` the client has been written the frames `ws`, and the beginning `p` of the
next one; `rest` was accepted behind them. Nothing is written behind a Close frame, and while
the connection is calm, as it is under the condition `c`, the writer stops for nothing else. -/
structure Wrote (c : Prop) (out : Bytes) (ws rest : List Frame) (p : Bytes) (o : Outbox) :
    Prop where
  output : o.link.sink.output = out ++ Frame.encodeAll ws ++ p
  accepted : o.accepted.reverse = ws ++ rest
  ready : o.writer = .ready → rest = o.queue ∧ p = []
  cut : p ≠ [] →
    ∃ f fs, rest = f :: fs ∧ p <+: f.encode none ∧ p.length < (f.encode none).length
  close_last : ∀ f ∈ ws.dropLast, f.opcode ≠ .close
  stops : (∃ f ∈ ws, f.opcode = .close) → p = [] ∧ o.writer = .ended
  calm : c → o.link.IsCalm ∧
    (o.writer = .ready ∨ o.writer = .ended ∧ ∃ f ∈ ws, f.opcode = .close)

/-- In the beginning nothing is written. -/
theorem wrote_new (l : Link) : Wrote l.IsCalm l.sink.output [] [] [] { link := l } where
  output := by simp [Frame.encodeAll]
  accepted := rfl
  ready _ := ⟨rfl, rfl⟩
  cut h := absurd rfl h
  close_last := by simp
  stops := by simp
  calm h := ⟨h, .inl rfl⟩

/-- Nothing depends on what is not the writer's. -/
theorem Wrote.congr {c' : Prop} (h : Wrote c out ws rest p o)
    (hsink : o'.link.sink.output = o.link.sink.output)
    (haccepted : o'.accepted = o.accepted) (hqueue : o'.queue = o.queue)
    (hwriter : o'.writer = o.writer) (hcalm : c' → c ∧ (o.link.IsCalm → o'.link.IsCalm)) :
    Wrote c' out ws rest p o' where
  output := by rw [hsink, h.output]
  accepted := by rw [haccepted, h.accepted]
  ready := by
    rw [hwriter, hqueue]
    exact h.ready
  cut := h.cut
  close_last := h.close_last
  stops := by
    rw [hwriter]
    exact h.stops
  calm hc := by
    obtain ⟨hc, hlink⟩ := hcalm hc
    rw [hwriter]
    exact ⟨hlink (h.calm hc).1, (h.calm hc).2⟩

/-- A writer that is stopped has written what it had written. -/
theorem Wrote.stop (h : Wrote c out ws rest p o) : Wrote False out ws rest p o.stop where
  output := h.output
  accepted := h.accepted
  ready hr := by simp [Outbox.stop] at hr
  cut := h.cut
  close_last := h.close_last
  stops hc := ⟨(h.stops hc).1, rfl⟩
  calm hc := hc.elim

/-- A writer at work: behind `out` the client has been written the frames `ws`, none of them a
Close frame, and `fs` are next. -/
structure Writing (c : Prop) (out : Bytes) (ws fs : List Frame) (o : Outbox) : Prop where
  output : o.link.sink.output = out ++ Frame.encodeAll ws
  accepted : o.accepted.reverse = ws ++ fs
  ready : o.writer = .ready
  not_close : ∀ f ∈ ws, f.opcode ≠ .close
  calm : c → o.link.IsCalm

variable {fs : List Frame} {sink : Sink}

theorem Writing.not_mem_close (h : Writing c out ws fs o) : ¬ ∃ f ∈ ws, f.opcode = .close := by
  rintro ⟨f, hf, hclose⟩
  exact h.not_close f hf hclose

/-- A writer that has no more frames waits for them. -/
theorem Writing.done (h : Writing c out ws [] o) :
    Wrote c out ws [] [] ({ o with queue := [] } : Outbox) where
  output := by rw [List.append_nil, h.output]
  accepted := h.accepted
  ready _ := ⟨rfl, rfl⟩
  cut hp := absurd rfl hp
  close_last f hf := h.not_close f (List.dropLast_subset _ hf)
  stops hc := absurd hc h.not_mem_close
  calm hc := ⟨h.calm hc, .inl h.ready⟩

/-- On a calm connection a frame is written in full. -/
theorem Writing.write_eq_done (h : Writing c out ws fs o) (hc : c) (bs : Bytes) :
    (o.link.sink.write bs).1 = .done ∧ (o.link.sink.write bs).2.IsOpen := by
  obtain ⟨sink, hdone, hopen⟩ := Sink.write_of_isOpen (h.calm hc).isOpen bs
  rw [hdone]
  exact ⟨rfl, hopen⟩

/-- A frame that is written in full stands behind the others. -/
theorem Writing.output_of_done (h : Writing c out ws (f :: fs) o)
    (hw : o.link.sink.write (f.encode none) = (.done, sink)) :
    sink.output = out ++ Frame.encodeAll (ws ++ [f]) := by
  rw [Sink.output_of_write hw, h.output, Frame.encodeAll, Frame.encodeAll,
    List.flatMap_append, List.flatMap_singleton, List.append_assoc]

theorem Writing.isCalm_of_done (h : Writing c out ws (f :: fs) o)
    (hw : o.link.sink.write (f.encode none) = (.done, sink)) (hc : c) :
    Link.IsCalm { o.link with sink, sock := o.link.sock.touch o.link.now } := by
  have hopen := (h.write_eq_done hc (f.encode none)).2
  rw [hw] at hopen
  exact ⟨hopen, (h.calm hc).not_closed, (h.calm hc).undisturbed⟩

/-- A frame that does not close is written, and the next one may be. -/
theorem Writing.next (h : Writing c out ws (f :: fs) o)
    (hw : o.link.sink.write (f.encode none) = (.done, sink)) (hf : f.opcode ≠ .close) :
    Writing c out (ws ++ [f]) fs
      { o with link := { o.link with sink, sock := o.link.sock.touch o.link.now } } where
  output := h.output_of_done hw
  accepted := by
    rw [h.accepted, List.append_assoc]
    rfl
  ready := h.ready
  not_close g hg := by
    rcases List.mem_append.1 hg with hg | hg
    · exact h.not_close g hg
    · rw [List.mem_singleton.1 hg]
      exact hf
  calm := h.isCalm_of_done hw

/-- A Close frame is written, and the writer stops. -/
theorem Writing.close (h : Writing c out ws (f :: fs) o)
    (hw : o.link.sink.write (f.encode none) = (.done, sink)) (hf : f.opcode = .close) :
    Wrote c out (ws ++ [f]) fs []
      ({ o with link := { o.link with sink, sock := o.link.sock.touch o.link.now }
                queue := fs } : Outbox).stop where
  output := by
    rw [List.append_nil]
    have hout := h.output_of_done hw
    exact hout
  accepted := by
    show o.accepted.reverse = _
    rw [h.accepted, List.append_assoc]
    rfl
  ready hr := by simp [stop] at hr
  cut hp := absurd rfl hp
  close_last := by
    rw [List.dropLast_concat]
    exact h.not_close
  stops _ := ⟨rfl, rfl⟩
  calm hc := by
    have hcalm := h.isCalm_of_done hw hc
    exact ⟨⟨⟨hcalm.isOpen.grants, hcalm.isOpen.limit, hcalm.isOpen.stall⟩, hcalm.not_closed,
      hcalm.undisturbed⟩, .inr ⟨rfl, f, by simp, hf⟩⟩

/-- Of a frame that cannot be written in full the client has been written a beginning. -/
theorem Writing.cut (h : Writing c out ws (f :: fs) o)
    (hw : (o.link.sink.write (f.encode none)).1 ≠ .done)
    (hsink : o'.link.sink.output = (o.link.sink.write (f.encode none)).2.output)
    (haccepted : o'.accepted = o.accepted) (hwriter : o'.writer ≠ .ready) :
    ∃ ws' rest p, Wrote c out ws' rest p o' := by
  obtain ⟨p, hp, hlt, hout⟩ := Sink.output_of_write_ne_done hw
  refine ⟨ws, f :: fs, p, ?_, by rw [haccepted, h.accepted], fun hr => absurd hr hwriter,
    fun _ => ⟨f, fs, rfl, hp, hlt⟩, fun f hf => h.not_close f (List.dropLast_subset _ hf),
    fun hc => absurd hc h.not_mem_close, fun hc => absurd (h.write_eq_done hc _).1 hw⟩
  rw [hsink, hout, h.output]

/-- Whole frames are written until one is a Close frame or cannot be written. -/
theorem wrote_writeFrames (fs : List Frame) (h : Writing c out ws fs o) :
    ∃ ws' rest' p', Wrote c out ws' rest' p' (o.writeFrames fs) := by
  induction fs generalizing o ws with
  | nil => exact ⟨ws, [], [], h.done⟩
  | cons f fs ih =>
      rw [writeFrames_cons]
      split
      · next sink hw =>
          dsimp only
          split
          · next hclose => exact ⟨_, _, _, h.close hw hclose⟩
          · next hclose => exact ih (h.next hw hclose)
      · next sink hw =>
          exact h.cut (by rw [hw]; simp) (by rw [hw]) rfl (by simp)
      · next r sink hdone _ hw =>
          exact h.cut (by rw [hw]; exact fun h => hdone h) (by rw [hw]; rfl) rfl (by simp [stop])

theorem Wrote.flush (h : Wrote c out ws rest p o) :
    ∃ ws' rest' p', Wrote c out ws' rest' p' o.flush := by
  unfold Outbox.flush
  split
  · next hready =>
      obtain ⟨rfl, rfl⟩ := h.ready hready
      refine wrote_writeFrames o.queue ⟨?_, h.accepted, hready, fun f hf hclose => ?_,
        fun hc => (h.calm hc).1⟩
      · rw [h.output, List.append_nil]
      · have hended := (h.stops ⟨f, hf, hclose⟩).2
        rw [hready] at hended
        contradiction
  · exact ⟨_, _, _, h⟩

/-- A frame that is accepted stands behind all others. -/
theorem Wrote.accept (h : Wrote c out ws rest p o) (hw : o.writer ≠ .ended) (f : Frame) :
    Wrote c out ws (rest ++ [f]) p (o.accept f) where
  output := h.output
  accepted := by
    rw [Outbox.accept, List.reverse_cons, h.accepted, List.append_assoc]
  ready hr := by
    obtain ⟨hrest, hp⟩ := h.ready hr
    exact ⟨congrArg (· ++ [f]) hrest, hp⟩
  cut hp := by
    obtain ⟨g, fs, hrest, hcut⟩ := h.cut hp
    exact ⟨g, fs ++ [f], by rw [hrest, List.cons_append], hcut⟩
  close_last := h.close_last
  stops hc := absurd (h.stops hc).2 hw
  calm hc := h.calm hc

theorem Wrote.post (h : Wrote c out ws rest p o) (f : Frame) :
    ∃ ws' rest' p', Wrote c out ws' rest' p' (o.post f).2 := by
  have hturn : ∀ {o₁}, (o₁ = o ∨ o₁ = o.flush) → ∃ ws' rest' p', Wrote c out ws' rest' p' o₁ := by
    rintro o₁ (rfl | rfl)
    · exact ⟨_, _, _, h⟩
    · exact h.flush
  generalize hpost : o.post f = posted
  have hposts := posts_post o f
  rw [hpost] at hposts
  cases hposts with
  | failed _ ho₁ _ => exact hturn ho₁
  | ok _ ho₁ hw =>
      obtain ⟨ws', rest', p', h₁⟩ := hturn ho₁
      exact ⟨_, _, _, h₁.accept hw f⟩
  | stuck _ =>
      obtain ⟨ws', rest', p', h₁⟩ := h.flush
      exact ⟨_, _, _, h₁.congr (congrArg Sink.output (Link.sink_await _ _ _)) rfl rfl rfl
        fun hc => ⟨hc, (·.await _ _)⟩⟩

/-- On a calm connection a frame is accepted, unless a Close frame was. -/
theorem Wrote.post_eq_ok (h : Wrote c out ws rest p o) (hc : c)
    (hopen : ∀ g ∈ o.accepted, g.opcode ≠ .close) (f : Frame) : (o.post f).1 = .ok := by
  have hready : ∀ {ws rest p} {o₁ : Outbox}, Wrote c out ws rest p o₁ →
      o₁.accepted = o.accepted → o₁.writer = .ready := by
    intro ws rest p o₁ h₁ hacc
    obtain hready | ⟨_, g, hg, hclose⟩ := (h₁.calm hc).2
    · exact hready
    · have hmem : g ∈ o₁.accepted := by
        rw [← List.mem_reverse, h₁.accepted]
        exact List.mem_append_left _ hg
      exact absurd hclose (hopen g (hacc ▸ hmem))
  obtain ⟨ws', rest', p', hflush⟩ := h.flush
  have hturn := hready hflush (turn_flush o).accepted
  generalize hpost : o.post f = posted
  have hposts := posts_post o f
  rw [hpost] at hposts
  cases hposts with
  | failed _ ho₁ hended =>
      rcases ho₁ with rfl | rfl
      · simp [hready h rfl] at hended
      · simp [hturn] at hended
  | ok => rfl
  | stuck hstalled => simp [hturn] at hstalled

/-- Whatever happens, frames are written in the order in which they are accepted. -/
theorem Wrote.move (h : Wrote c out ws rest p o) (hm : Move P o o') :
    ∃ ws' rest' p', Wrote c out ws' rest' p' o' := by
  cases hm with
  | send _ _ => exact h.post _
  | close _ _ _ =>
      have hclosing : Wrote c out ws rest p { o with closing := true } :=
        h.congr rfl rfl rfl rfl fun hc => ⟨hc, id⟩
      exact hclosing.post _
  | write => exact h.flush
  | notice =>
      unfold noticeClose
      split
      · next hclosed =>
          rw [Bool.and_eq_true, decide_eq_true_eq] at hclosed
          refine ⟨ws, rest, p, { h.stop with calm := fun hc => ?_ }⟩
          rw [(h.calm hc).1.not_closed] at hclosed
          exact absurd hclosed.2 Bool.false_ne_true
      · exact ⟨_, _, _, h⟩
  | wait ready d =>
      exact ⟨_, _, _, h.congr (congrArg Sink.output (Link.sink_await _ _ _)) rfl rfl rfl
        fun hc => ⟨hc, (·.await _ _)⟩⟩
  | read | log =>
      exact ⟨_, _, _, h.congr rfl rfl rfl rfl fun hc => ⟨hc, (·.congr rfl rfl rfl)⟩⟩
  | sock hs =>
      exact ⟨_, _, _, h.congr rfl rfl rfl rfl fun hc => ⟨hc, (·.congr rfl hs rfl)⟩⟩

theorem Course.wrote (h : Course P o es o')
    (hw : ∃ ws rest p, Wrote c out ws rest p o) : ∃ ws rest p, Wrote c out ws rest p o' := by
  refine h.keeps (motive := fun o => ∃ ws rest p, Wrote c out ws rest p o) ?_ ?_ hw
  · rintro o o' ⟨_, _, _, hw⟩ hm
    exact hw.move hm
  · rintro o e ⟨ws, rest, p, hw⟩
    exact ⟨ws, rest, p, hw.congr rfl rfl rfl rfl fun hc => ⟨hc, (·.congr rfl rfl rfl)⟩⟩

/-! ## The Close frame -/

/-- The Close frames that were accepted. -/
def closes (o : Outbox) : List Frame := o.accepted.filter fun f => f.opcode = .close

/-- A Close frame is accepted only as the closing handshake begins, and no second one. -/
structure HasOneClose (o : Outbox) : Prop where
  open_nil : o.closing = false → o.closes = []
  length_le : o.closes.length ≤ 1

theorem closes_accept (o : Outbox) (f : Frame) :
    (o.accept f).closes = if f.opcode = .close then f :: o.closes else o.closes := by
  simp only [closes, accept, List.filter_cons, decide_eq_true_eq]

/-- Sending keeps the closing flag, and accepts the frame or nothing. -/
theorem closes_post (o : Outbox) (f : Frame) :
    (o.post f).2.closing = o.closing ∧
      ((o.post f).2.closes = o.closes ∨
        f.opcode = .close ∧ (o.post f).2.closes = f :: o.closes) := by
  generalize hpost : o.post f = posted
  have hposts := posts_post o f
  rw [hpost] at hposts
  cases hposts with
  | failed hturn _ _ => exact ⟨hturn.closing, .inl (by simp only [closes, hturn.accepted])⟩
  | @ok o₁ hturn _ _ =>
      refine ⟨hturn.closing, ?_⟩
      have hcloses : o₁.closes = o.closes := by simp only [closes, hturn.accepted]
      rw [closes_accept, hcloses]
      split
      · next hc => exact .inr ⟨hc, rfl⟩
      · exact .inl rfl
  | stuck _ =>
      have hturn := turn_flush o
      exact ⟨hturn.closing, .inl (by
        simp only [closes, waitForever, hturn.accepted])⟩

/-- While the session is closing no Close frame is accepted. -/
theorem closes_move (hm : Move P o o') (hclosing : o.closing = true) :
    o'.closing = true ∧ o'.closes = o.closes := by
  cases hm with
  | @send f _ hf =>
      obtain ⟨hc, hcloses | ⟨hf', _⟩⟩ := closes_post o f
      · exact ⟨hc.trans hclosing, hcloses⟩
      · exact absurd hf' hf
  | close _ _ hopen => simp [hclosing] at hopen
  | write =>
      have hturn := turn_flush o
      exact ⟨hturn.closing.trans hclosing, by simp only [closes, hturn.accepted]⟩
  | notice =>
      unfold noticeClose
      split
      · exact ⟨hclosing, rfl⟩
      · exact ⟨hclosing, rfl⟩
  | wait | read | log | sock => exact ⟨hclosing, rfl⟩

theorem HasOneClose.move (h : HasOneClose o) (hm : Move P o o') : HasOneClose o' := by
  cases hc : o.closing with
  | true =>
      obtain ⟨hclosing, hcloses⟩ := closes_move hm hc
      exact ⟨fun hopen => by simp [hclosing] at hopen, by rw [hcloses]; exact h.length_le⟩
  | false =>
      have hnil := h.open_nil hc
      have hsame : o'.closes = o.closes → HasOneClose o' := fun hs => by
        rw [hnil] at hs
        exact ⟨fun _ => hs, by simp [hs]⟩
      cases hm with
      | @send f _ hf =>
          obtain ⟨_, hcloses | ⟨hf', _⟩⟩ := closes_post o f
          · exact hsame hcloses
          · exact absurd hf' hf
      | @close f _ _ _ =>
          obtain ⟨hclosing, hcloses⟩ := closes_post { o with closing := true } f
          refine ⟨fun hopen => by simp [hclosing] at hopen, ?_⟩
          have hstart : ({ o with closing := true } : Outbox).closes = [] := hnil
          rw [hstart] at hcloses
          rcases hcloses with hcloses | ⟨_, hcloses⟩ <;> simp [hcloses]
      | write => exact hsame (by simp only [closes, (turn_flush o).accepted])
      | notice =>
          refine hsame ?_
          unfold noticeClose
          split <;> rfl
      | wait | read | log | sock => exact hsame rfl

theorem Course.hasOneClose (h : Course P o es o') (ho : HasOneClose o) :
    HasOneClose o' :=
  h.keeps (fun h hm => h.move hm) (fun _ h => ⟨h.open_nil, h.length_le⟩) ho

theorem Course.closes (h : Course P o es o') (ho : o.closing = true) :
    o'.closing = true ∧ o'.closes = o.closes := by
  refine h.keeps (motive := fun o' => o'.closing = true ∧ o'.closes = o.closes) ?_
    (fun _ h => h) ⟨ho, rfl⟩
  rintro o₁ o₂ ⟨hclosing, hcloses⟩ hm
  obtain ⟨hclosing', hcloses'⟩ := closes_move hm hclosing
  exact ⟨hclosing', hcloses'.trans hcloses⟩

end Outbox

end WebSocket

end WebServer
