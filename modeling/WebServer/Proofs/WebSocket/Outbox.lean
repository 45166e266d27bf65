import WebServer.Proofs.Link.Waiting
import WebServer.WebSocket.Outbox

/-!
# WebServer.Proofs.WebSocket.Outbox

The sending side of a session, one move at a time. A move may be anybody's: a hook's, the
reader's, the writer's, or the client's while all wait (`Move`). What every move keeps is
kept along a whole course of them, between the calls of hooks (`Course.keeps`): only what
was sent is accepted (`Course.forall_accepted`), nothing else is recorded (`Course.calls`),
nothing happens to the sock but operations (`Course.becomes`), and no write waits for ever
on a client that takes everything in the end (`Course.flows`).
-/

namespace WebServer

namespace WebSocket

namespace Outbox

variable {P : Frame → Prop} {o o' o'' : Outbox} {f : Frame} {es es' : List Event}

/-! ## Moves -/

/-- One thing that happens to the sending side. The frames that are sent have the
property `P`. -/
inductive Move (P : Frame → Prop) : Outbox → Outbox → Prop where
  /-- A frame is sent that is no Close frame, be the session closing or not. -/
  | send {o : Outbox} {f : Frame} : P f → f.opcode ≠ .close → Move P o (o.post f).2
  /-- The closing handshake begins. -/
  | close {o : Outbox} {f : Frame} : P f → f.opcode = .close → o.closing = false →
      Move P o ({ o with closing := true }.post f).2
  /-- The writer has its turn. -/
  | write {o : Outbox} : Move P o o.flush
  /-- The writer looks whether the sock is closed. -/
  | notice {o : Outbox} : Move P o o.noticeClose
  /-- Time passes, and the client acts. -/
  | wait {o : Outbox} {α : Type} (ready : Link → Option α) (d : Option Nat) :
      Move P o { o with link := (o.link.await ready d).2 }
  /-- Bytes that have arrived are read. -/
  | read {o : Outbox} (n : Nat) :
      Move P o { o with link := { o.link with inbox := o.link.inbox.drop n } }
  /-- Something is recorded that is no call of a hook. -/
  | log {o : Outbox} {e : Event} : e.isHook = false →
      Move P o { o with link := o.link.log e }
  /-- The sock is used, and is open as before, or closed as before. -/
  | sock {o : Outbox} {sock : Sock} : sock.isClosed = o.link.sock.isClosed →
      o.link.sock.Becomes sock → Move P o { o with link := { o.link with sock } }

/-! ## The writer's turn -/

/-- What the writer changes when it has its turn: it writes, which counts as activity. It
does not wait for ever on a client that takes everything in the end. -/
structure Turn (o o' : Outbox) : Prop where
  link : o'.link = { o.link with sink := o'.link.sink, sock := o'.link.sock }
  becomes : o.link.sock.Becomes o'.link.sock
  state : o'.link.sock.state = o.link.sock.state
  accepted : o'.accepted = o.accepted
  closing : o'.closing = o.closing
  flows : o.link.sink.stall = none → o.writer ≠ .stalled →
    o'.link.sink.stall = none ∧ o'.writer ≠ .stalled

theorem Turn.refl (o : Outbox) : Turn o o := ⟨rfl, .refl _, rfl, rfl, rfl, fun h h' => ⟨h, h'⟩⟩

theorem Turn.trans (h : Turn o o') (h' : Turn o' o'') : Turn o o'' where
  link := by
    have hlink := h'.link
    rw [h.link] at hlink
    exact hlink
  becomes := h.becomes.trans h'.becomes
  state := h'.state.trans h.state
  accepted := h'.accepted.trans h.accepted
  closing := h'.closing.trans h.closing
  flows hs hw := h'.flows (h.flows hs hw).1 (h.flows hs hw).2

theorem writeFrames_cons (o : Outbox) (f : Frame) (fs : List Frame) :
    o.writeFrames (f :: fs) =
      match o.link.sink.write (f.encode none) with
      | (.done, sink) =>
          let link := { o.link with sink, sock := o.link.sock.touch o.link.now }
          if f.opcode = .close then { o with link, queue := fs }.stop
          else writeFrames { o with link } fs
      | (.stalled, sink) =>
          { o with link := { o.link with sink }, queue := fs, writer := .stalled }
      | (_, sink) => { o with link := { o.link with sink }, queue := fs }.stop := by
  rw [writeFrames, Link.writeAll, Sink.writeAll_singleton]
  cases h : o.link.sink.write (f.encode none) with
  | mk r sink => cases r <;> rfl

theorem turn_writeFrames (o : Outbox) (fs : List Frame) : Turn o (o.writeFrames fs) := by
  induction fs generalizing o with
  | nil => exact ⟨rfl, .refl _, rfl, rfl, rfl, fun h h' => ⟨h, h'⟩⟩
  | cons f fs ih =>
      have htouch := o.link.sock.becomes_perform (.touch o.link.now)
      have hstall : o.link.sink.stall = none →
          (o.link.sink.write (f.encode none)).1 ≠ .stalled ∧
            (o.link.sink.write (f.encode none)).2.stall = none := Sink.write_of_stall_eq_none
      rw [writeFrames_cons]
      split
      · next sink hw =>
          rw [hw] at hstall
          dsimp only
          split
          · exact ⟨rfl, htouch, rfl, rfl, rfl, fun h _ => ⟨(hstall h).2, by simp [stop]⟩⟩
          · let link := { o.link with sink, sock := o.link.sock.touch o.link.now }
            have hturn : Turn o { o with link } :=
              ⟨rfl, htouch, rfl, rfl, rfl, fun h h' => ⟨(hstall h).2, h'⟩⟩
            exact hturn.trans (ih _)
      · next sink hw =>
          rw [hw] at hstall
          exact ⟨rfl, .refl _, rfl, rfl, rfl, fun h _ => absurd rfl (hstall h).1⟩
      · next sink _ _ hw =>
          rw [hw] at hstall
          exact ⟨rfl, .refl _, rfl, rfl, rfl, fun h _ => ⟨(hstall h).2, by simp [stop]⟩⟩

theorem turn_flush (o : Outbox) : Turn o o.flush := by
  unfold flush
  split
  · exact turn_writeFrames o _
  · exact .refl o

/-- A writer that goes on has written everything. -/
theorem queue_writeFrames (o : Outbox) (fs : List Frame)
    (h : (o.writeFrames fs).writer = .ready) : (o.writeFrames fs).queue = [] := by
  induction fs generalizing o with
  | nil => rfl
  | cons f fs ih =>
      rw [writeFrames_cons] at h ⊢
      split at h
      · dsimp only at h ⊢
        split at h
        · simp [stop] at h
        · next hc =>
            rw [if_neg hc]
            exact ih _ h
      · simp at h
      · simp [stop] at h

theorem queue_flush (h : o.flush.writer = .ready) : o.flush.queue = [] := by
  unfold flush at h ⊢
  split at h
  · exact queue_writeFrames o _ h
  · next hw => exact absurd h hw

/-! ## Sending -/

/-- The frame is queued. -/
def accept (o : Outbox) (f : Frame) : Outbox :=
  { o with queue := o.queue ++ [f], accepted := f :: o.accepted }

/-- What sending a frame comes to, after the writer may have had a turn. -/
inductive Posts (o : Outbox) (f : Frame) : Sent × Outbox → Prop where
  /-- The writer has stopped. -/
  | failed {o₁ : Outbox} : Turn o o₁ → (o₁ = o ∨ o₁ = o.flush) → o₁.writer = .ended →
      Posts o f (.failed, o₁)
  | ok {o₁ : Outbox} : Turn o o₁ → (o₁ = o ∨ o₁ = o.flush) → o₁.writer ≠ .ended →
      Posts o f (.ok, o₁.accept f)
  /-- The writer is in a write that does not end, and the queue is full. -/
  | stuck : o.flush.writer = .stalled → Posts o f (.stuck, o.flush.waitForever)

theorem posts_post (o : Outbox) (f : Frame) : Posts o f (o.post f) := by
  unfold post
  dsimp only
  by_cases hroom : o.queue.length < capacity
  · rw [if_pos hroom]
    split
    · next hw => exact .failed (.refl o) (.inl rfl) hw
    · next hw => exact .ok (.refl o) (.inl rfl) hw
  · rw [if_neg hroom]
    split
    · next hw => exact .failed (turn_flush o) (.inr rfl) hw
    · next hw =>
        split
        · exact .ok (turn_flush o) (.inr rfl) hw
        · next hfull =>
            refine .stuck ?_
            cases hs : o.flush.writer with
            | ready => simp [queue_flush hs, capacity] at hfull
            | ended => exact absurd hs hw
            | stalled => rfl

/-! ## Frames and the link -/

/-- Sending accepts the frame or nothing. -/
theorem accepted_post (o : Outbox) (f : Frame) :
    (o.post f).2.accepted = if (o.post f).1 = .ok then f :: o.accepted else o.accepted := by
  generalize hpost : o.post f = posted
  have hposts := posts_post o f
  rw [hpost] at hposts
  cases hposts with
  | failed hturn _ _ => exact hturn.accepted
  | ok hturn _ _ => exact congrArg (f :: ·) hturn.accepted
  | stuck _ => exact (turn_flush o).accepted

theorem forall_accepted_post (h : ∀ g ∈ o.accepted, P g) (hf : P f) :
    ∀ g ∈ (o.post f).2.accepted, P g := by
  rw [accepted_post]
  split
  · exact List.forall_mem_cons.2 ⟨hf, h⟩
  · exact h

/-- What is accepted has the property of what is sent. -/
theorem forall_accepted_move (hm : Move P o o') (h : ∀ g ∈ o.accepted, P g) :
    ∀ g ∈ o'.accepted, P g := by
  cases hm with
  | send hf _ => exact forall_accepted_post h hf
  | close hf _ _ => exact forall_accepted_post (o := { o with closing := true }) h hf
  | write =>
      rw [(turn_flush o).accepted]
      exact h
  | notice =>
      unfold noticeClose
      split
      · exact h
      · exact h
  | wait | read | log | sock => exact h

/-- What holds of the link whatever the writer does, however long it is waited, whatever is
read and whatever is recorded, is kept by every move. -/
theorem link_move {motive : Link → Prop} (hm : Move P o o')
    (hserver : ∀ l sink sock, sock.isClosed = l.sock.isClosed → l.sock.Becomes sock → motive l →
      motive { l with sink, sock })
    (hwait : ∀ l α (ready : Link → Option α) d, motive l → motive (l.await ready d).2)
    (hread : ∀ l n, motive l → motive { l with inbox := l.inbox.drop n })
    (hlog : ∀ l e, e.isHook = false → motive l → motive (l.log e)) (h : motive o.link) :
    motive o'.link := by
  have hturn : ∀ {o o'}, Turn o o' → motive o.link → motive o'.link := fun ht hl => by
    rw [ht.link]
    refine hserver _ _ _ ?_ ht.becomes hl
    rw [Sock.isClosed, ht.state, Sock.isClosed]
  have hpost : ∀ (o : Outbox) f, motive o.link → motive (o.post f).2.link := by
    intro o f hl
    generalize hpost : o.post f = posted
    have hposts := posts_post o f
    rw [hpost] at hposts
    cases hposts with
    | failed ht _ _ => exact hturn ht hl
    | @ok o₁ ht _ _ => exact @hturn o o₁ ht hl
    | stuck _ => exact hwait _ _ _ _ (hturn (turn_flush o) hl)
  cases hm with
  | send => exact hpost o _ h
  | close => exact hpost { o with closing := true } _ h
  | write => exact hturn (turn_flush o) h
  | notice =>
      unfold noticeClose
      split
      · exact hserver _ _ _ rfl (.refl _) h
      · exact h
  | wait ready d => exact hwait _ _ ready d h
  | read n => exact hread _ n h
  | log he => exact hlog _ _ he h
  | sock hs hb => exact hserver _ _ _ hs hb h

/-- No move calls a hook. -/
theorem calls_move (hm : Move P o o') : o'.link.calls = o.link.calls :=
  link_move (motive := fun l => l.calls = o.link.calls) hm (fun _ _ _ _ _ h => h)
    (fun l _ ready d h => (Link.calls_await ready d l).trans h) (fun _ _ h => h)
    (fun _ _ he h => (Link.calls_log_of_not_hook he).trans h) rfl

/-- No move adds to what is left to read. -/
theorem supply_move (hm : Move P o o') : o'.link.supply ≤ o.link.supply :=
  link_move (motive := fun l => l.supply ≤ o.link.supply) hm (fun _ _ _ _ _ h => h)
    (fun l _ ready d h => (Link.supply_await ready d l).symm ▸ h)
    (fun l n h => by
      simp only [Link.supply, List.length_drop] at h ⊢
      omega)
    (fun _ _ _ h => h) (Nat.le_refl _)

/-- A client that leaves leaves whatever happens. -/
theorem leaves_move (hm : Move P o o') (h : o.link.Leaves) : o'.link.Leaves :=
  link_move hm (fun _ _ _ hs _ h => h.congr rfl hs rfl)
    (fun _ _ ready d h => h.await ready d) (fun _ _ h => h) (fun _ _ _ h => h) h

/-- No move does anything to the sock but operations. -/
theorem becomes_move (hm : Move P o o') : o.link.sock.Becomes o'.link.sock :=
  link_move (motive := fun l => o.link.sock.Becomes l.sock) hm (fun _ _ _ _ hb h => h.trans hb)
    (fun l _ ready d h => h.trans (Link.becomes_await ready d l)) (fun _ _ h => h)
    (fun _ _ _ h => h) (.refl _)

/-- The client takes everything in the end, or breaks: no write waits for ever. -/
structure Flows (o : Outbox) : Prop where
  stall : o.link.sink.stall = none
  writer : o.writer ≠ .stalled

theorem Flows.turn (h : Flows o) (ht : Turn o o') : Flows o' :=
  ⟨(ht.flows h.stall h.writer).1, (ht.flows h.stall h.writer).2⟩

/-- Sending comes to an end. -/
theorem Flows.post (h : Flows o) (f : Frame) :
    (o.post f).1 ≠ .stuck ∧ Flows (o.post f).2 ∧
      (o.post f).2.link = { o.link with
        sink := (o.post f).2.link.sink, sock := (o.post f).2.link.sock } ∧
      (o.post f).2.link.sock.state = o.link.sock.state := by
  generalize hpost : o.post f = posted
  have hposts := posts_post o f
  rw [hpost] at hposts
  cases hposts with
  | failed ht _ _ => exact ⟨by simp, h.turn ht, ht.link, ht.state⟩
  | ok ht _ _ => exact ⟨by simp, ⟨(h.turn ht).stall, (h.turn ht).writer⟩, ht.link, ht.state⟩
  | stuck hw => exact absurd hw (h.turn (turn_flush o)).writer

theorem Flows.noticeClose (h : Flows o) : Flows o.noticeClose := by
  unfold Outbox.noticeClose
  split
  · exact ⟨h.stall, by simp [stop]⟩
  · exact h

theorem Flows.move (h : Flows o) (hm : Move P o o') : Flows o' := by
  cases hm with
  | send => exact (h.post _).2.1
  | close =>
      have hclosing : Flows { o with closing := true } := ⟨h.stall, h.writer⟩
      exact (hclosing.post _).2.1
  | write => exact h.turn (turn_flush o)
  | notice => exact h.noticeClose
  | wait ready d => exact ⟨by rw [Link.sink_await]; exact h.stall, h.writer⟩
  | read | log | sock => exact ⟨h.stall, h.writer⟩

/-! ## Courses -/

/-- Moves one after the other, and the calls of hooks that are recorded among them. -/
inductive Course (P : Frame → Prop) (o : Outbox) : List Event → Outbox → Prop where
  | nil : Course P o [] o
  | move {o' o'' : Outbox} {es : List Event} :
      Course P o es o' → Move P o' o'' → Course P o es o''
  | call {o' : Outbox} {es : List Event} {e : Event} :
      Course P o es o' → e.isHook = true →
      Course P o (es ++ [e]) { o' with link := o'.link.log e }

theorem Move.course (hm : Move P o o') : Course P o [] o' := .move .nil hm

theorem Course.trans (h : Course P o es o') (h' : Course P o' es' o'') :
    Course P o (es ++ es') o'' := by
  induction h' with
  | nil =>
      rw [List.append_nil]
      exact h
  | move _ hm ih => exact .move ih hm
  | call _ he ih =>
      rw [← List.append_assoc]
      exact .call ih he

/-- What moves and records keep, courses keep. -/
theorem Course.keeps {motive : Outbox → Prop} (h : Course P o es o')
    (hmove : ∀ {o o'}, motive o → Move P o o' → motive o')
    (hlog : ∀ {o} e, motive o → motive { o with link := o.link.log e }) (ho : motive o) :
    motive o' := by
  induction h with
  | nil => exact ho
  | move _ hm ih => exact hmove ih hm
  | call _ _ ih => exact hlog _ ih

/-- A course records exactly its calls. -/
theorem Course.calls (h : Course P o es o') :
    o'.link.calls = o.link.calls ++ es := by
  induction h with
  | nil => exact (List.append_nil _).symm
  | move _ hm ih => rw [calls_move hm, ih]
  | call _ he ih =>
      rw [← List.append_assoc, ← ih]
      exact Link.calls_log_of_hook he

theorem Course.forall_accepted (h : Course P o es o')
    (ho : ∀ f ∈ o.accepted, P f) : ∀ f ∈ o'.accepted, P f :=
  h.keeps (motive := fun o => ∀ f ∈ o.accepted, P f) (fun h hm => forall_accepted_move hm h)
    (fun _ h => h) ho

theorem Course.supply_le (h : Course P o es o') :
    o'.link.supply ≤ o.link.supply :=
  h.keeps (motive := fun o' => o'.link.supply ≤ o.link.supply)
    (fun h hm => Nat.le_trans (supply_move hm) h) (fun _ h => h) (Nat.le_refl _)

theorem Course.becomes (h : Course P o es o') : o.link.sock.Becomes o'.link.sock :=
  h.keeps (motive := fun o' => o.link.sock.Becomes o'.link.sock)
    (fun h hm => h.trans (becomes_move hm)) (fun _ h => h) (.refl _)

theorem Course.leaves (h : Course P o es o') (ho : o.link.Leaves) : o'.link.Leaves :=
  h.keeps (fun h hm => leaves_move hm h) (fun _ h => h) ho

theorem Course.flows (h : Course P o es o') (ho : Flows o) : Flows o' :=
  h.keeps (fun h hm => h.move hm) (fun _ h => ⟨h.stall, h.writer⟩) ho

end Outbox

end WebSocket

end WebServer
