import WebServer.Chain
import WebServer.Proofs.Response.Sending

/-!
# WebServer.Proofs.Chain.Run

Runs of a chain: which stages are called, and what they come to when no stage makes
a stream that is still going on.
-/

namespace WebServer

/-- Whether a handler is called. -/
def Visit.isHandler : Visit → Bool
  | .handler _ _ _ => true
  | .interceptor _ => false

/-- An interceptor that answers with responses that are all there, and leaves those
of the inner stages so. -/
structure Interceptor.KeepsWhole (i : Interceptor) : Prop where
  before : ∀ q o, (i.before q).2 = some o → o.toResponse.IsWhole
  after : ∀ q r, r.IsWhole → (i.after q (some r)).2.toResponse.IsWhole
  failed : ∀ q, (i.after q none).2.toResponse.IsWhole

namespace Chain

variable {is : List Interceptor} {h : Handler} {q : Request}

/-- A run calls one handler at most. -/
theorem countP_visits_run (is : List Interceptor) (h : Handler) (q : Request) :
    (run is h q).visits.countP Visit.isHandler ≤ 1 := by
  induction is generalizing q with
  | nil =>
      simp only [run, call]
      split <;> simp [Visit.isHandler]
  | cons i is ih =>
      rw [run]
      split
      · simp [Visit.isHandler]
      · next q' _ =>
          simpa [Visit.isHandler] using ih q'

theorem isWhole_internalError : Response.internalError.IsWhole := by
  intro pieces hp
  contradiction

/-- What an interceptor leaves of an outcome. -/
theorem isWhole_close {i : Interceptor} {o : Outcome} (hi : i.KeepsWhole)
    (ho : o.toResponse.IsWhole) : (close i (q, o)).2.toResponse.IsWhole := by
  cases o with
  | response r => exact hi.after q r ho
  | failed => exact hi.failed q
  | panicked => exact isWhole_internalError

/-- A run of stages that keep responses whole ends with a response that is all
there. -/
theorem isWhole_run (hh : ∀ q, (h.handle q).2.toResponse.IsWhole) (hi : ∀ i ∈ is, i.KeepsWhole)
    (q : Request) : (run is h q).outcome.toResponse.IsWhole := by
  induction is generalizing q with
  | nil => exact hh q
  | cons i is ih =>
      rw [run]
      split
      · next q' o hbefore =>
          exact (hi i List.mem_cons_self).before q o (by rw [hbefore])
      · next q' _ =>
          exact isWhole_close (hi i List.mem_cons_self)
            (ih (fun j hj => hi j (List.mem_cons_of_mem _ hj)) q')

end Chain

end WebServer
