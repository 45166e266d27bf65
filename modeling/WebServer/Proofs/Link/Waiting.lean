import WebServer.Proofs.Link.Writing
import WebServer.Proofs.SockTable.Step

/-!
# WebServer.Proofs.Link.Waiting

What waiting leaves as it is. What every act of the client's side keeps is kept while the
server waits (`await_keeps`) and reads (`receive_keeps`): no hook of a session is called
(`calls_await`), and no stage of a chain (`idles_await`), nothing happens to the sock but
operations (`becomes_await`), a stream that ends still does (`Leaves.await`), and on a calm
connection nothing goes wrong (`IsCalm.await`).
-/

namespace WebServer

/-- Whether a hook of a session was called. -/
def Event.isHook : Event → Bool
  | .opened | .delivered _ | .ended _ _ => true
  | .visited _ | .askedClosing _ | .sendFailed | .sockClosed _ | .sockReaped _
  | .observed _ _ => false

/-- Whether an event was brought about from outside, and not by a call. -/
def Event.isOutside : Event → Bool
  | .sockClosed _ | .sockReaped _ | .observed _ _ => true
  | .visited _ | .opened | .delivered _ | .ended _ _ | .askedClosing _ | .sendFailed => false

namespace Link

variable {l l' : Link} {e : Event} {α : Type}

/-! ## Waiting -/

/-- What holds whatever the client's side does, and whatever the time is, holds after
waiting. -/
theorem await_keeps {motive : Link → Prop} (ready : Link → Option α) (d : Option Nat)
    (hnow : ∀ l now, motive l → motive { l with now := now })
    (hact : ∀ l t act rest, l.timeline = (t, act) :: rest → motive l →
      motive ({ l with now := t, timeline := rest }.perform act))
    (h : motive l) : motive (l.await ready d).2 := by
  have hgiveUp : ∀ l : Link, motive l → motive (l.giveUp (α := α) d).2 := by
    intro l hl
    unfold giveUp
    split
    · split
      · exact hnow _ _ hl
      · exact hnow _ _ hl
    · exact hnow _ _ hl
  fun_induction await ready d l with
  | case1 => exact h
  | case2 l | case3 l => exact hgiveUp l h
  | case4 l _ t act rest hl _ ih => exact ih (hact l t act rest hl h)

/-- Reading is waiting, and taking bytes that are there. -/
theorem receive_snd (l : Link) (d : Option Nat) (interrupt : Link → Bool) :
    ∃ n, (l.receive d interrupt).2 =
      { (l.await (arrivalOr interrupt) d).2 with
        inbox := (l.await (arrivalOr interrupt) d).2.inbox.drop n } := by
  unfold receive
  split
  · next a l' h =>
      rw [h]
      cases a with
      | bytes bs => exact ⟨bs.length, rfl⟩
      | eof | reset => exact ⟨0, rfl⟩
  all_goals
    next l' h =>
      rw [h]
      exact ⟨0, rfl⟩

/-- What holds after waiting, and whatever bytes are taken, holds after reading. -/
theorem receive_keeps {motive : Link → Prop} (d : Option Nat) (interrupt : Link → Bool)
    (hawait : ∀ (α : Type) (ready : Link → Option α) l, motive l → motive (l.await ready d).2)
    (hread : ∀ l n, motive l → motive { l with inbox := l.inbox.drop n }) (h : motive l) :
    motive (l.receive d interrupt).2 := by
  obtain ⟨n, hlink⟩ := receive_snd l d interrupt
  rw [hlink]
  exact hread _ n (hawait _ _ l h)

/-! ## Calls of hooks -/

/-- The calls of a session's hooks, in order. -/
def calls (l : Link) : List Event := l.events.filter Event.isHook

theorem calls_log (l : Link) (e : Event) :
    (l.log e).calls = l.calls ++ if e.isHook then [e] else [] := by
  simp only [calls, events, log, List.reverse_cons, List.filter_append, List.filter_cons,
    List.filter_nil]

theorem calls_log_of_hook (h : e.isHook = true) : (l.log e).calls = l.calls ++ [e] := by
  rw [calls_log, if_pos h]

theorem calls_log_of_not_hook (h : e.isHook = false) : (l.log e).calls = l.calls := by
  rw [calls_log, h]
  exact List.append_nil _

theorem calls_perform (l : Link) (a : Act) : (l.perform a).calls = l.calls := by
  cases a with
  | close | reap | observe => exact calls_log_of_not_hook rfl
  | bytes | eof | reset | shutdown | dropSenders => rfl

/-- While the server waits no hook is called. -/
theorem calls_await (ready : Link → Option α) (d : Option Nat) (l : Link) :
    (l.await ready d).2.calls = l.calls :=
  await_keeps (motive := fun l' => l'.calls = l.calls) ready d (fun _ _ h => h)
    (fun _ _ act _ _ h => (calls_perform _ act).trans h) rfl

/-! ## Events from outside -/

/-- No stage of a chain and no hook is called between two states of a link: all that is recorded
comes from outside. -/
def Idles (l l' : Link) : Prop :=
  ∃ es, l'.events = l.events ++ es ∧ ∀ e ∈ es, e.isOutside = true

theorem Idles.of_events (h : l'.events = l.events) : l.Idles l' :=
  ⟨[], by rw [h, List.append_nil], fun _ he => absurd he List.not_mem_nil⟩

theorem Idles.trans {l'' : Link} (h : l.Idles l') (h' : l'.Idles l'') : l.Idles l'' := by
  obtain ⟨es, hevents, hes⟩ := h
  obtain ⟨es', hevents', hes'⟩ := h'
  refine ⟨es ++ es', by rw [hevents', hevents, List.append_assoc], fun e he => ?_⟩
  exact (List.mem_append.1 he).elim (hes e) (hes' e)

theorem idles_log (l : Link) (he : e.isOutside = true) : l.Idles (l.log e) := by
  refine ⟨[e], List.reverse_cons, fun e' he' => ?_⟩
  rw [List.mem_singleton.1 he']
  exact he

theorem idles_perform (l : Link) (a : Act) : l.Idles (l.perform a) := by
  cases a with
  | close | reap | observe => exact idles_log _ rfl
  | bytes | eof | reset | shutdown | dropSenders => exact .of_events rfl

/-- While the server waits it calls nothing. -/
theorem idles_await (ready : Link → Option α) (d : Option Nat) (l : Link) :
    l.Idles (l.await ready d).2 :=
  await_keeps (motive := fun l' => l.Idles l') ready d (fun _ _ h => h)
    (fun _ _ act _ _ h => h.trans (idles_perform _ act)) (.of_events rfl)

/-! ## The sock -/

theorem becomes_perform (l : Link) (a : Act) : l.sock.Becomes (l.perform a).sock := by
  cases a with
  | close => exact l.sock.becomes_perform .close
  | reap => exact l.sock.becomes_perform .closeIfWaiting
  | bytes | eof | reset | shutdown | dropSenders | observe => exact .refl l.sock

theorem becomes_closeSock (l : Link) : l.sock.Becomes l.closeSock.sock :=
  l.sock.becomes_perform .close

theorem isClosed_closeSock (l : Link) : l.closeSock.sock.isClosed = true := by
  show (l.sock.close).2.isClosed = true
  rw [Sock.close_eq]
  rfl

/-- While the server waits nothing happens to the sock but operations. -/
theorem becomes_await (ready : Link → Option α) (d : Option Nat) (l : Link) :
    l.sock.Becomes (l.await ready d).2.sock :=
  await_keeps (motive := fun l' => l.sock.Becomes l'.sock) ready d (fun _ _ h => h)
    (fun _ _ act _ _ h => h.trans (becomes_perform _ act)) (.refl l.sock)

/-! ## The end of the stream -/

/-- The stream ends sooner or later, or the sock is closed from outside. -/
def Leaves (l : Link) : Prop :=
  l.tail ≠ .quiet ∨ l.sock.isClosed = true ∨
    ∃ e ∈ l.timeline, e.2 = .eof ∨ e.2 = .reset ∨ e.2 = .close

theorem Leaves.congr (h : l.Leaves) (htail : l'.tail = l.tail)
    (hsock : l'.sock.isClosed = l.sock.isClosed) (htimeline : l'.timeline = l.timeline) :
    l'.Leaves := by
  unfold Leaves
  rw [htail, hsock, htimeline]
  exact h

theorem leaves_perform {t : Nat} {act : Act} {rest : List (Nat × Act)} (h : l.Leaves)
    (hl : l.timeline = (t, act) :: rest) :
    ({ l with now := t, timeline := rest }.perform act).Leaves := by
  have hclose : ∀ s : Sock, s.close.2.isClosed = true := fun s => by
    rw [Sock.close_eq]
    rfl
  have hreap : ∀ s : Sock, s.isClosed = true → s.closeIfWaiting.2.isClosed = true := by
    intro s hs
    unfold Sock.closeIfWaiting
    split
    · rfl
    · exact hs
  have hrest : l.tail ≠ .quiet ∨ l.sock.isClosed = true ∨
      (act = .eof ∨ act = .reset ∨ act = .close) ∨
      ∃ e ∈ rest, e.2 = .eof ∨ e.2 = .reset ∨ e.2 = .close := by
    simpa only [Leaves, hl, List.mem_cons, exists_eq_or_imp] using h
  cases act with
  | eof | reset => exact .inl (by simp [perform])
  | close => exact .inr (.inl (hclose _))
  | bytes | shutdown | dropSenders | observe =>
      obtain htail | hsock | hact | hmem := hrest
      · exact .inl htail
      · exact .inr (.inl hsock)
      · simp at hact
      · exact .inr (.inr hmem)
  | reap =>
      obtain htail | hsock | hact | hmem := hrest
      · exact .inl htail
      · exact .inr (.inl (hreap _ hsock))
      · simp at hact
      · exact .inr (.inr hmem)

theorem Leaves.await (h : l.Leaves) (ready : Link → Option α) (d : Option Nat) :
    (l.await ready d).2.Leaves :=
  await_keeps ready d (fun _ _ h => h) (fun _ _ _ _ hl h => leaves_perform h hl) h

/-! ## Calm connections -/

/-- Nobody closes or reaps the sock. -/
def IsUndisturbed (timeline : List (Nat × Act)) : Prop :=
  ∀ e ∈ timeline, e.2 ≠ .close ∧ e.2 ≠ .reap

/-- The client takes everything, and the sock is open and is not closed from outside. -/
structure IsCalm (l : Link) : Prop where
  isOpen : l.sink.IsOpen
  not_closed : l.sock.isClosed = false
  undisturbed : IsUndisturbed l.timeline

theorem IsCalm.congr (h : l.IsCalm) (hsink : l'.sink = l.sink)
    (hsock : l'.sock.isClosed = l.sock.isClosed) (htimeline : l'.timeline = l.timeline) :
    l'.IsCalm :=
  ⟨hsink ▸ h.isOpen, hsock.trans h.not_closed, htimeline ▸ h.undisturbed⟩

theorem isCalm_perform {t : Nat} {act : Act} {rest : List (Nat × Act)} (h : l.IsCalm)
    (hl : l.timeline = (t, act) :: rest) :
    ({ l with now := t, timeline := rest }.perform act).IsCalm := by
  have hact := h.undisturbed (t, act) (by rw [hl]; exact List.mem_cons_self)
  have hrest : IsUndisturbed rest := fun e he =>
    h.undisturbed e (by rw [hl]; exact List.mem_cons_of_mem _ he)
  cases act with
  | close => exact absurd rfl hact.1
  | reap => exact absurd rfl hact.2
  | bytes | eof | reset | shutdown | dropSenders | observe =>
      exact ⟨h.isOpen, h.not_closed, hrest⟩

theorem IsCalm.await (h : l.IsCalm) (ready : Link → Option α) (d : Option Nat) :
    (l.await ready d).2.IsCalm :=
  await_keeps ready d (fun _ _ h => ⟨h.isOpen, h.not_closed, h.undisturbed⟩)
    (fun _ _ _ _ hl h => isCalm_perform h hl) h

end Link

end WebServer
