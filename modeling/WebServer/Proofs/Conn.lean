import WebServer.Conn
import WebServer.Proofs.Link.Waiting

/-!
# WebServer.Proofs.Conn

What reading a request and writing a response leave as it is. Between them they wait, take bytes
that have arrived, and write; what these keep is kept by reading a request
(`readRequest_keeps`), by waiting for its first bytes (`fill_keeps`) and by writing a response
(`writeResponse_keeps`). So nothing is called meanwhile (`idles_readRequest`,
`idles_writeResponse`), and nothing happens to the sock but operations (`becomes_readRequest`,
`becomes_fill`, `becomes_writeResponse`).
-/

namespace WebServer

namespace Conn

section Keeping

variable {motive : Link → Prop}
  (hawait : ∀ (α : Type) (ready : Link → Option α) d l, motive l → motive (l.await ready d).2)

include hawait

theorem readRequest_keeps (hread : ∀ l n, motive l → motive { l with inbox := l.inbox.drop n })
    (c : Conn) (interrupt : Link → Bool) (h : motive c.link) :
    motive (c.readRequest interrupt).2.link := by
  have hreceive : ∀ l d, motive l → motive (l.receive d interrupt).2 := fun l d hl =>
    Link.receive_keeps d interrupt (fun α ready l => hawait α ready d l) hread hl
  fun_induction readRequest c interrupt with
  | case1 | case2 => exact h
  | case3 c _ _ _ _ hr ih =>
      have hkept := hreceive c.link (some (c.link.now + c.patience)) h
      rw [hr] at hkept
      exact ih hkept
  | case4 c _ _ _ hr | case5 c _ _ _ hr | case6 c _ _ _ hr | case7 c _ _ _ hr
  | case8 c _ _ _ hr | case9 c _ _ _ hr =>
      have hkept := hreceive c.link (some (c.link.now + c.patience)) h
      rw [hr] at hkept
      exact hkept

theorem fill_keeps (hread : ∀ l n, motive l → motive { l with inbox := l.inbox.drop n })
    (c : Conn) (interrupt : Link → Bool) (h : motive c.link) :
    motive (c.fill interrupt).2.link := by
  have hkept := Link.receive_keeps none interrupt (fun α ready l => hawait α ready none l) hread h
  unfold fill
  split <;>
  · next hr =>
      rw [hr] at hkept
      exact hkept

theorem afterWrite_keeps (l : Link) (interrupt : Link → Bool) (r : Sink.Result) (h : motive l) :
    motive (afterWrite l interrupt r).2 := by
  have hkept := hawait _ (fun l => if interrupt l then some () else none) none l h
  cases r with
  | broken | refused => exact h
  | stalled | done =>
      unfold afterWrite
      dsimp only
      split <;>
      · next hr =>
          rw [hr] at hkept
          exact hkept

theorem finishResponse_keeps (hwrite : ∀ l sink, motive l → motive { l with sink })
    (l : Link) (w : Response.Writer) (interrupt : Link → Bool) (h : motive l) :
    motive (finishResponse l w interrupt).2 := by
  have hkept : motive (l.writeAll w.plan.tail).2 := hwrite l _ h
  unfold finishResponse
  split
  · next hr =>
      rw [hr] at hkept
      split <;> exact hkept
  · next hr =>
      rw [hr] at hkept
      exact afterWrite_keeps hawait _ interrupt _ hkept

theorem writeResponse_keeps (hwrite : ∀ l sink, motive l → motive { l with sink })
    (l : Link) (w : Response.Writer) (interrupt : Link → Bool) (h : motive l) :
    motive (writeResponse l w interrupt).2 := by
  have hkept : motive (l.writeAll w.plan.writes).2 := hwrite l _ h
  have hfinish : ∀ l, motive l → motive (finishResponse l w interrupt).2 := fun l hl =>
    finishResponse_keeps hawait hwrite l w interrupt hl
  unfold writeResponse
  split
  · next l₁ hr =>
      rw [hr] at hkept
      split
      · have hwaited : motive (awaitProducers l₁ interrupt).2 := hawait _ _ none l₁ hkept
        split
        · next hw =>
            rw [hw] at hwaited
            exact hfinish _ hwaited
        · next hw =>
            rw [hw] at hwaited
            exact hwaited
        · next hw =>
            rw [hw] at hwaited
            exact hwaited
      · exact hfinish l₁ hkept
  · next hr =>
      rw [hr] at hkept
      exact afterWrite_keeps hawait _ interrupt _ hkept

end Keeping

/-! ## Calls -/

theorem idles_readRequest (c : Conn) (interrupt : Link → Bool) :
    c.link.Idles (c.readRequest interrupt).2.link :=
  readRequest_keeps (motive := fun l => c.link.Idles l)
    (fun _ ready d l h => h.trans (Link.idles_await ready d l)) (fun _ _ h => h) c interrupt
    (.of_events rfl)

/-- Whatever becomes of a response, nothing is called while it is written. -/
theorem idles_writeResponse (l : Link) (w : Response.Writer) (interrupt : Link → Bool) :
    l.Idles (writeResponse l w interrupt).2 :=
  writeResponse_keeps (motive := fun l' => l.Idles l')
    (fun _ ready d l h => h.trans (Link.idles_await ready d l)) (fun _ _ h => h) l w interrupt
    (.of_events rfl)

/-! ## The sock -/

theorem becomes_readRequest (c : Conn) (interrupt : Link → Bool) :
    c.link.sock.Becomes (c.readRequest interrupt).2.link.sock :=
  readRequest_keeps (motive := fun l => c.link.sock.Becomes l.sock)
    (fun _ ready d l h => h.trans (Link.becomes_await ready d l)) (fun _ _ h => h) c interrupt
    (.refl _)

theorem becomes_fill (c : Conn) (interrupt : Link → Bool) :
    c.link.sock.Becomes (c.fill interrupt).2.link.sock :=
  fill_keeps (motive := fun l => c.link.sock.Becomes l.sock)
    (fun _ ready d l h => h.trans (Link.becomes_await ready d l)) (fun _ _ h => h) c interrupt
    (.refl _)

/-- Whatever becomes of a response, nothing happens to the sock but operations while it is
written. -/
theorem becomes_writeResponse (l : Link) (w : Response.Writer) (interrupt : Link → Bool) :
    l.sock.Becomes (writeResponse l w interrupt).2.sock :=
  writeResponse_keeps (motive := fun l' => l.sock.Becomes l'.sock)
    (fun _ ready d l h => h.trans (Link.becomes_await ready d l)) (fun _ _ h => h) l w interrupt
    (.refl _)

end Conn

end WebServer
