import WebServer.Conn
import WebServer.Proofs.Link.Delivery
import WebServer.Proofs.Link.Writing

/-!
# WebServer.Proofs.Response.Sending

What goes out when a response is written. A response that is sent has gone out in full
(`output_of_writeResponse`), and of any other a beginning has (`takes_writeResponse`). A
client that takes everything gets it, no more and no less
(`writeResponse_of_isOpen`), also if the producers of its body are waited for
(`writeResponse_of_producersEnd`).
-/

namespace WebServer

/-! ## Responses that are all there -/

namespace Response

/-- The body is there as a whole, or as pieces that no more follow. -/
def IsWhole (r : Response) : Prop := ∀ pieces, r.body ≠ .stream pieces true

namespace Writer

variable {r : Response} {ex : Exchange}

/-- The bytes of a response on the wire. -/
def output (w : Writer) : Bytes := (w.plan.writes ++ w.plan.tail).flatten

/-- Whether the response is sent in full; a stream may end too early. -/
def isComplete (w : Writer) : Bool :=
  match w.plan.ending with
  | .sent _ => true
  | .short _ _ => false

theorem body_ofResponse (r : Response) (ex : Exchange) : (ofResponse r ex).body = r.body := rfl

/-- Only a stream that is still held is waited for. -/
theorem held_of_waits (h : (ofResponse r ex).plan.waits = true) :
    ∃ ps, r.body = .stream ps true := by
  rw [← body_ofResponse r ex]
  unfold plan at h
  split at h <;> simp_all

/-- A response that is all there waits for nothing. -/
theorem waits_ofResponse (h : r.IsWhole) : (ofResponse r ex).plan.waits = false := by
  cases hw : (ofResponse r ex).plan.waits with
  | false => rfl
  | true =>
      obtain ⟨ps, hps⟩ := held_of_waits hw
      exact absurd hps (h ps)

end Writer

end Response

/-! ## Writing -/

namespace Conn

variable {l : Link} {w : Response.Writer}

/-- What writing a response comes to when the client takes everything. -/
def completeEnd (w : Response.Writer) : WriteEnd :=
  match w.plan.ending with
  | .sent n => .sent n
  | .short n m => .failed (shortMessage n m)

/-- A response that is all there is written in full, and nothing else happens. -/
theorem writeResponse_of_isOpen (interrupt : Link → Bool) (hs : l.sink.IsOpen)
    (hw : w.plan.waits = false) :
    ∃ sink, writeResponse l w interrupt = (completeEnd w, { l with sink }) ∧ sink.IsOpen ∧
      sink.output = l.sink.output ++ w.output := by
  obtain ⟨s₁, hs₁, hopen₁, hout₁⟩ := Sink.writeAll_of_isOpen hs w.plan.writes
  obtain ⟨s₂, hs₂, hopen₂, hout₂⟩ := Sink.writeAll_of_isOpen hopen₁ w.plan.tail
  refine ⟨s₂, ?_, hopen₂, ?_⟩
  · simp only [writeResponse, finishResponse, Link.writeAll, completeEnd, hs₁, hs₂, hw]
    cases w.plan.ending <;> rfl
  · rw [hout₂, hout₁, Response.Writer.output, List.flatten_append, List.append_assoc]

end Conn

/-! ## Responses that are sent -/

namespace Conn

variable {l l' : Link} {w : Response.Writer} {interrupt : Link → Bool} {n : Nat}

theorem sink_awaitProducers (l : Link) (interrupt : Link → Bool) :
    (awaitProducers l interrupt).2.sink = l.sink := Link.sink_await _ _ _

/-- A write that did not succeed sends no response. -/
theorem afterWrite_ne_sent (l : Link) (interrupt : Link → Bool) (r : Sink.Result) (n : Nat) :
    (afterWrite l interrupt r).1 ≠ .sent n := by
  unfold afterWrite
  repeat' split
  all_goals simp

theorem output_of_finishResponse (h : finishResponse l w interrupt = (.sent n, l')) :
    l'.sink.output = l.sink.output ++ w.plan.tail.flatten ∧ w.plan.ending = .sent n := by
  unfold finishResponse at h
  split at h
  · next l₁ htail =>
      split at h
      · next m hending =>
          obtain ⟨hm, rfl⟩ := Prod.mk.inj h
          obtain rfl := WriteEnd.sent.inj hm
          exact ⟨Link.output_of_writeAll htail, hending⟩
      · simp at h
  · exact absurd (congrArg Prod.fst h) (afterWrite_ne_sent _ _ _ _)

/-- A response that is sent has gone out in full, whatever the client takes. -/
theorem output_of_writeResponse (h : writeResponse l w interrupt = (.sent n, l')) :
    l'.sink.output = l.sink.output ++ w.output ∧ w.plan.ending = .sent n := by
  obtain ⟨l₁, l₂, hwrites, hsink, hfinish⟩ : ∃ l₁ l₂, l.writeAll w.plan.writes = (.done, l₁) ∧
      l₂.sink = l₁.sink ∧ finishResponse l₂ w interrupt = (.sent n, l') := by
    unfold writeResponse at h
    split at h
    · next l₁ hwrites =>
        split at h
        · have hsame := sink_awaitProducers l₁ interrupt
          split at h
          · next l₂ hawait =>
              rw [hawait] at hsame
              exact ⟨l₁, l₂, hwrites, hsame, h⟩
          · simp at h
          · simp at h
        · exact ⟨l₁, l₁, hwrites, rfl, h⟩
    · exact absurd (congrArg Prod.fst h) (afterWrite_ne_sent _ _ _ _)
  obtain ⟨htail, hending⟩ := output_of_finishResponse hfinish
  refine ⟨?_, hending⟩
  rw [htail, hsink, Link.output_of_writeAll hwrites, Response.Writer.output, List.flatten_append,
    List.append_assoc]

/-! ## Responses that may fail -/

theorem sink_afterWrite (l : Link) (interrupt : Link → Bool) (r : Sink.Result) :
    (afterWrite l interrupt r).2.sink = l.sink := by
  have hsink := Link.sink_await (fun l => if interrupt l then some () else none) none l
  unfold afterWrite
  repeat' split
  all_goals simp_all

theorem takes_finishResponse (l : Link) (w : Response.Writer) (interrupt : Link → Bool) :
    Sink.Takes w.plan.tail.flatten l.sink (finishResponse l w interrupt).2.sink := by
  have htail := Link.takes_writeAll l w.plan.tail
  unfold finishResponse
  split
  · next l₁ hl₁ =>
      rw [hl₁] at htail
      split <;> exact htail
  · next r l₁ _ hl₁ =>
      rw [hl₁] at htail
      rwa [sink_afterWrite]

/-- Whatever becomes of a response, the client has taken a beginning of it. -/
theorem takes_writeResponse (l : Link) (w : Response.Writer) (interrupt : Link → Bool) :
    Sink.Takes w.output l.sink (writeResponse l w interrupt).2.sink := by
  have hwrites := Link.takes_writeAll l w.plan.writes
  rw [Response.Writer.output, List.flatten_append]
  unfold writeResponse
  split
  · next l₁ hl₁ =>
      rw [hl₁] at hwrites
      have hout := Link.output_of_writeAll hl₁
      have hsame := sink_awaitProducers l₁ interrupt
      split
      · split
        · next l₂ hl₂ =>
            rw [hl₂] at hsame
            exact (takes_finishResponse l₂ w interrupt).after (hsame ▸ hout)
        · next l₂ hl₂ =>
            rw [hl₂] at hsame
            exact hsame ▸ hwrites.append_right _
        · next l₂ _ _ hl₂ =>
            rw [hl₂] at hsame
            exact hsame ▸ hwrites.append_right _
      · exact (takes_finishResponse l₁ w interrupt).after hout
  · next r l₁ _ hl₁ =>
      rw [hl₁] at hwrites
      rw [sink_afterWrite]
      exact hwrites.append_right _

end Conn

/-! ## Clients that do not stall -/

namespace Conn

variable {w : Response.Writer} {s : Sink}

/-- On a sink writing comes to an end, changes only the sink, and depends on nothing else. -/
def Concludes (s : Sink) (write : Link → WriteEnd × Link) : Prop :=
  ∃ e sink, e ≠ .stuck ∧ e ≠ .interrupted ∧ sink.stall = none ∧
    ∀ l : Link, l.sink = s → write l = (e, { l with sink })

/-- A write that does not wait for ever is done, or ends the response. -/
theorem concludes_of_writeAll {bss : List Bytes} {write next : Link → WriteEnd × Link}
    (interrupt : Link → Bool) (hs : s.stall = none)
    (hwrite : ∀ l, write l =
      match l.writeAll bss with
      | (.done, l) => next l
      | (r, l) => afterWrite l interrupt r)
    (hnext : ∀ s, s.stall = none → Concludes s next) : Concludes s write := by
  have hstall : (s.writeAll bss).1 ≠ .stalled ∧ (s.writeAll bss).2.stall = none :=
    Sink.writeAll_of_stall_eq_none hs
  cases hr : s.writeAll bss with
  | mk r sink =>
      rw [hr] at hstall
      have hlink : ∀ l : Link, l.sink = s → l.writeAll bss = (r, { l with sink }) := by
        rintro l rfl
        rw [Link.writeAll, hr]
      cases r with
      | stalled => exact absurd rfl hstall.1
      | broken =>
          refine ⟨.failed Link.brokenMessage, sink, by simp, by simp, hstall.2, fun l hl => ?_⟩
          rw [hwrite, hlink l hl]
          rfl
      | refused =>
          refine ⟨.failed refusedMessage, sink, by simp, by simp, hstall.2, fun l hl => ?_⟩
          rw [hwrite, hlink l hl]
          rfl
      | done =>
          obtain ⟨e, sink', hstuck, hinterrupted, hsink, hnext⟩ := hnext sink hstall.2
          refine ⟨e, sink', hstuck, hinterrupted, hsink, fun l hl => ?_⟩
          rw [hwrite, hlink l hl]
          exact hnext _ rfl

/-- On a client that takes everything in the end, or breaks, writing a response that is all
there comes to an end. -/
theorem concludes_writeResponse (interrupt : Link → Bool) (hs : s.stall = none)
    (hw : w.plan.waits = false) : Concludes s fun l => writeResponse l w interrupt := by
  refine concludes_of_writeAll interrupt hs (fun l => rfl) fun s hs => ?_
  rw [hw]
  refine concludes_of_writeAll interrupt hs (fun l => rfl) fun s hs => ?_
  cases w.plan.ending with
  | sent n => exact ⟨.sent n, s, by simp, by simp, hs, by rintro l rfl; rfl⟩
  | short n m => exact ⟨.failed _, s, by simp, by simp, hs, by rintro l rfl; rfl⟩

end Conn

/-! ## Producers that get done -/

/-- While the server waits, the producers of held streams get done. -/
def Link.ProducersEnd (l : Link) : Prop :=
  ∃ before t after, l.timeline = before ++ (t, .dropSenders) :: after ∧
    (∀ e ∈ before, e.1 ≤ l.horizon) ∧ t ≤ l.horizon

theorem Link.drops_le_perform (l : Link) (a : Act) : l.drops ≤ (l.perform a).drops := by
  cases a <;> simp [perform, onSock, log]

theorem Link.horizon_perform (l : Link) (a : Act) : (l.perform a).horizon = l.horizon := by
  cases a <;> rfl

namespace Conn

variable {l : Link} {w : Response.Writer}

/-- Waiting for the producers comes to an end. -/
theorem await_of_producersEnd {ready : Link → Option Bool} {n : Nat}
    (hready : ∀ l, ready l = if n < l.drops then some true else none) (hn : n ≤ l.drops)
    (h : l.ProducersEnd) : ∃ l', l.await ready none = (.ready true, l') := by
  obtain ⟨before, t, after, hl, hbefore, ht⟩ := h
  -- by induction on what happens before they get done
  induction before generalizing l with
  | nil =>
      by_cases hlt : n < l.drops
      · exact ⟨l, Link.await_of_ready (by rw [hready, if_pos hlt])⟩
      · rw [Link.await_of_act (by rw [hready, if_neg hlt]) hl rfl ht]
        refine ⟨_, Link.await_of_ready ?_⟩
        rw [hready, if_pos]
        exact Nat.lt_succ_of_le hn
  | cons e before ih =>
      by_cases hlt : n < l.drops
      · exact ⟨l, Link.await_of_ready (by rw [hready, if_pos hlt])⟩
      · rw [Link.await_of_act (by rw [hready, if_neg hlt]) hl rfl
          (hbefore e List.mem_cons_self)]
        let l₁ : Link := { l with now := e.1, timeline := before ++ (t, .dropSenders) :: after }
        have hdrops : n ≤ (l₁.perform e.2).drops := Nat.le_trans hn (l₁.drops_le_perform e.2)
        have hhorizon : l.horizon ≤ (l₁.perform e.2).horizon :=
          Nat.le_of_eq (l₁.horizon_perform e.2).symm
        exact ih hdrops (l₁.timeline_perform e.2)
          (fun e' he' => Nat.le_trans (hbefore e' (List.mem_cons_of_mem _ he')) hhorizon)
          (Nat.le_trans ht hhorizon)

/-- A response is written in full, and its producers are waited for if it needs them. -/
theorem writeResponse_of_producersEnd (hs : l.sink.IsOpen)
    (hw : w.plan.waits = true → l.ProducersEnd) :
    ∃ l', writeResponse l w (fun _ => false) = (completeEnd w, l') ∧
      l'.sink.output = l.sink.output ++ w.output := by
  cases hwaits : w.plan.waits with
  | false =>
      obtain ⟨sink, hwrite, _, hout⟩ := writeResponse_of_isOpen (fun _ => false) hs hwaits
      exact ⟨_, hwrite, hout⟩
  | true =>
      obtain ⟨s₁, hs₁, hopen₁, hout₁⟩ := Sink.writeAll_of_isOpen hs w.plan.writes
      obtain ⟨l₁, hawait⟩ : ∃ l₁, awaitProducers { l with sink := s₁ } (fun _ => false) =
          (.ready true, l₁) :=
        await_of_producersEnd (fun _ => rfl) (Nat.le_refl _) (hw hwaits)
      have hsink : l₁.sink = s₁ := by
        have hsame := sink_awaitProducers { l with sink := s₁ } fun _ => false
        rw [hawait] at hsame
        exact hsame
      obtain ⟨s₂, hs₂, _, hout₂⟩ := Sink.writeAll_of_isOpen hopen₁ w.plan.tail
      refine ⟨{ l₁ with sink := s₂ }, ?_, ?_⟩
      · simp only [writeResponse, finishResponse, Link.writeAll, completeEnd, hs₁, hwaits, if_true,
          hawait, hsink, hs₂]
        cases w.plan.ending <;> rfl
      · rw [hout₂, hout₁, Response.Writer.output, List.flatten_append, List.append_assoc]

end Conn

end WebServer
