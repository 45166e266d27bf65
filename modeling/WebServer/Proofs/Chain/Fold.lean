import WebServer.Chain.Stock
import WebServer.Endpoint

/-!
# WebServer.Proofs.Chain.Fold

A chain goes inward and comes back. A request gets past the interceptors that go on (`GoesOn`)
and turns round at the first that does not, or at the handler (`TurnsAt`). The interceptors it
has got past, and no others, are then applied from the last to the first (`unwind`).

Main statement: that is all a run does, and how panics, errors and responses come out of it
(`execute_folds`).
-/

namespace WebServer

namespace Chain

variable {is outer inner passed rest : List Interceptor} {i : Interceptor} {h : Handler}
  {q q' : Request} {o : Outcome} {x : Request × Outcome} {vs : List Visit}

/-! ## Inward -/

/-- Interceptors that all go on: the first is given the one request, and the last leaves the
other. -/
inductive GoesOn : List Interceptor → Request → Request → Prop where
  | nil (q : Request) : GoesOn [] q q
  | cons {i : Interceptor} {is : List Interceptor} {q q₁ q' : Request} :
      i.before q = (q₁, none) → GoesOn is q₁ q' → GoesOn (i :: is) q q'

/-- Where a request turns round: at the first stage, which does not go on, or at the handler
when no interceptor is left. Told are the calls, the request as it is left, and what the stage
comes to. -/
inductive TurnsAt (h : Handler) (q : Request) :
    List Interceptor → List Visit → Request × Outcome → Prop where
  | stop {i : Interceptor} {q' : Request} {o : Outcome} (is : List Interceptor) :
      i.before q = (q', some o) → TurnsAt h q (i :: is) [.interceptor i.name] (q', o)
  | handler :
      TurnsAt h q [] (if h.quiet then [] else [.handler h.name q.method q.target]) (h.handle q)

/-- The calls of the interceptors, in order. -/
def visitsOf (is : List Interceptor) : List Visit := is.map (.interceptor ·.name)

/-- A request gets past some interceptors and turns round behind them. -/
theorem exists_turnsAt (is : List Interceptor) (h : Handler) (q : Request) :
    ∃ passed rest vs q' x, is = passed ++ rest ∧ GoesOn passed q q' ∧ TurnsAt h q' rest vs x := by
  induction is generalizing q with
  | nil => exact ⟨[], [], _, q, _, rfl, .nil q, .handler⟩
  | cons i is ih =>
      cases hbefore : i.before q with
      | mk q₁ o =>
          cases o with
          | some o => exact ⟨[], i :: is, _, q, _, rfl, .nil q, .stop is hbefore⟩
          | none =>
              obtain ⟨passed, rest, vs, q', x, hsplit, hgo, hturn⟩ := ih q₁
              exact ⟨i :: passed, rest, vs, q', x, by rw [hsplit]; rfl, .cons hbefore hgo, hturn⟩

/-! ## Back -/

/-- What interceptors make, the last one first, of a request and of what it came to behind
them. -/
def unwind (is : List Interceptor) (x : Request × Outcome) : Request × Outcome := is.foldr close x

@[simp] theorem unwind_nil (x : Request × Outcome) : unwind [] x = x := rfl

@[simp] theorem unwind_cons (i : Interceptor) (is : List Interceptor) (x : Request × Outcome) :
    unwind (i :: is) x = close i (unwind is x) := rfl

theorem unwind_append (outer inner : List Interceptor) (x : Request × Outcome) :
    unwind (outer ++ inner) x = unwind outer (unwind inner x) := List.foldr_append

theorem close_of_panicked (hx : x.2 = .panicked) (i : Interceptor) : close i x = x := by
  obtain ⟨q, o⟩ := x
  obtain rfl : o = .panicked := hx
  rfl

theorem close_of_failed (hx : x.2 = .failed) (i : Interceptor) :
    close i x = i.after x.1 none := by
  obtain ⟨q, o⟩ := x
  obtain rfl : o = .failed := hx
  rfl

/-- A panic passes all interceptors by. -/
theorem unwind_of_panicked (hx : x.2 = .panicked) (is : List Interceptor) : unwind is x = x := by
  induction is with
  | nil => rfl
  | cons i is ih => rw [unwind_cons, ih, close_of_panicked hx]

/-- An error that no interceptor on the way out replaces stays one. -/
theorem unwind_of_failed (hx : x.2 = .failed)
    (hlet : ∀ is₁ i is₂, outer = is₁ ++ i :: is₂ → (i.after (unwind is₂ x).1 none).2 = .failed) :
    (unwind outer x).2 = .failed := by
  induction outer with
  | nil => exact hx
  | cons i outer ih =>
      have hfailed : (unwind outer x).2 = .failed := by
        refine ih fun is₁ j is₂ houter => hlet (i :: is₁) j is₂ ?_
        rw [houter, List.cons_append]
      rw [unwind_cons, close_of_failed hfailed]
      exact hlet [] i outer rfl

/-- Interceptors that on the way back leave the request alone. -/
theorem unwind_fst (his : ∀ i ∈ is, ∀ q r, (i.after q r).1 = q) (x : Request × Outcome) :
    (unwind is x).1 = x.1 := by
  induction is with
  | nil => rfl
  | cons i is ih =>
      have hrest := ih fun j hj => his j (List.mem_cons_of_mem i hj)
      rw [unwind_cons, ← hrest]
      obtain ⟨q, o⟩ := unwind is x
      cases o with
      | response r => exact his i List.mem_cons_self q (some r)
      | failed => exact his i List.mem_cons_self q none
      | panicked => rfl

/-! ## Whole runs -/

/-- A run behind interceptors that go on. -/
theorem run_append (hgo : GoesOn passed q q') (rest : List Interceptor) (h : Handler) :
    (run (passed ++ rest) h q).visits = visitsOf passed ++ (run rest h q').visits ∧
      ((run (passed ++ rest) h q).request, (run (passed ++ rest) h q).outcome) =
        unwind passed ((run rest h q').request, (run rest h q').outcome) := by
  induction hgo with
  | nil q => exact ⟨rfl, rfl⟩
  | cons hbefore _ ih =>
      obtain ⟨hvisits, hback⟩ := ih
      rw [List.cons_append, run, hbefore]
      refine ⟨?_, ?_⟩
      · show _ :: _ = _ :: _
        rw [hvisits]
        rfl
      · rw [unwind_cons, ← hback]

/-- A run in which the request turns round at once. -/
theorem run_of_turnsAt (hturn : TurnsAt h q rest vs x) :
    (run rest h q).visits = vs ∧ ((run rest h q).request, (run rest h q).outcome) = x := by
  cases hturn with
  | stop is hbefore =>
      rw [run, hbefore]
      exact ⟨rfl, rfl⟩
  | handler => exact ⟨rfl, rfl⟩

/-- The calls up to where a request turns round are the first of all that there may be. -/
theorem visits_prefix_of_turnsAt (hturn : TurnsAt h q rest vs x) (passed : List Interceptor) :
    visitsOf passed ++ vs <+: visitsOf (passed ++ rest) ++ (call h q).visits := by
  rw [visitsOf, visitsOf, List.map_append, List.append_assoc, List.prefix_append_right_inj]
  cases hturn with
  | stop is _ => exact List.prefix_append [_] _
  | handler => exact List.prefix_rfl

end Chain

open Chain

/-- **A chain is run inward and back.** A request gets past the interceptors that go on, in
order, and turns round at the first that does not, or at the handler if all do; these stages are
called, each once, and no other. The request and what it came to are then handed back through
the interceptors that it got past, from the last to the first, and what comes out is the answer:

* a panic at any stage is not stopped by those further out, and is an internal error;
* so is an error that none further out replaces;
* everything else is a response, and is given as it is.

The request keeps what was changed in it, also if the run fails. -/
theorem Route.Resolved.execute_folds {r : Route.Resolved Endpoint Interceptor} {h : Handler}
    (hr : r.endpoint = .http h) (q : Request) :
    let run := r.execute q
    let answer := run.outcome.toResponse
    ∃ passed rest vs q' x,
      r.interceptors = passed ++ rest ∧ GoesOn passed q q' ∧ TurnsAt h q' rest vs x ∧
      (run.visits = visitsOf passed ++ vs ∧
        run.visits <+: visitsOf r.interceptors ++ (call h q').visits) ∧
      (run.request, run.outcome) = unwind passed x ∧
      (∀ outer inner, passed = outer ++ inner → (unwind inner x).2 = .panicked →
        answer = .internalError ∧ run.request = (unwind inner x).1) ∧
      (∀ outer inner, passed = outer ++ inner → (unwind inner x).2 = .failed →
        (∀ is₁ i is₂, outer = is₁ ++ i :: is₂ →
          (i.after (unwind (is₂ ++ inner) x).1 none).2 = .failed) →
        answer = .internalError) ∧
      ((∀ outer inner, passed = outer ++ inner → (unwind inner x).2 ≠ .panicked) →
        (unwind passed x).2 ≠ .failed → (unwind passed x).2 = .response answer) ∧
      ((∀ i ∈ passed, ∀ q r, (i.after q r).1 = q) → run.request = x.1) := by
  intro run answer
  obtain ⟨passed, rest, vs, q', x, hsplit, hgo, hturn⟩ := exists_turnsAt r.interceptors h q
  have hrun : run = Chain.run (passed ++ rest) h q := by
    show r.execute q = _
    rw [Route.Resolved.execute, hr, hsplit]
  obtain ⟨hvisits, hback⟩ := run_append hgo rest h
  obtain ⟨hturned, hx⟩ := run_of_turnsAt hturn
  rw [← hrun] at hvisits hback
  rw [hturned] at hvisits
  rw [hx] at hback
  have hrequest : run.request = (unwind passed x).1 := congrArg Prod.fst hback
  have houtcome : run.outcome = (unwind passed x).2 := congrArg Prod.snd hback
  refine ⟨passed, rest, vs, q', x, hsplit, hgo, hturn, ⟨hvisits, ?_⟩, hback, ?_, ?_, ?_, ?_⟩
  · rw [hvisits, hsplit]
    exact visits_prefix_of_turnsAt hturn passed
  · intro outer inner houter hpanic
    have hall : unwind passed x = unwind inner x := by
      rw [houter, unwind_append, unwind_of_panicked hpanic]
    refine ⟨?_, by rw [hrequest, hall]⟩
    show run.outcome.toResponse = _
    rw [houtcome, hall, hpanic]
    rfl
  · intro outer inner houter hfail hlet
    have hall : (unwind passed x).2 = .failed := by
      rw [houter, unwind_append]
      refine unwind_of_failed hfail fun is₁ i is₂ hi => ?_
      rw [← unwind_append]
      exact hlet is₁ i is₂ hi
    show run.outcome.toResponse = _
    rw [houtcome, hall]
    rfl
  · intro hcalm hok
    have hpanic := hcalm [] passed rfl
    show _ = Outcome.response run.outcome.toResponse
    rw [houtcome]
    cases ho : (unwind passed x).2 with
    | response r => rfl
    | failed => exact absurd ho hok
    | panicked => exact absurd ho hpanic
  · intro hkeep
    rw [hrequest]
    exact unwind_fst hkeep x

/-- An interceptor that makes a response of errors stands around one that marks the request: a
handler that fails is answered for, one that panics is not, and the mark stays. -/
theorem Route.Resolved.execute_folds_of_panic :
    let chain : List Interceptor := [.recover "net" (.ok (utf8 "saved")), .tag "mark"]
    let route (h : Handler) : Route.Resolved Endpoint Interceptor :=
      { endpoint := .http h, pattern := .fallback, interceptors := chain }
    let q : Request := { method := .get, path := "/a" }
    let failing := (route (.failing "h" 0)).execute q
    let panicking := (route (.panicking "h" 0)).execute q
    (route (.failing "h" 0)).endpoint = .http (.failing "h" 0) ∧
      (route (.panicking "h" 0)).endpoint = .http (.panicking "h" 0) ∧
      failing.outcome.toResponse = .ok (utf8 "saved") ∧
      panicking.outcome.toResponse = .internalError ∧
      panicking.request.attribute? "trace" = some "mark" ∧
      panicking.visits = [.interceptor "net", .interceptor "mark", .handler "h" .get "/a"] := by
  intro chain route q failing panicking
  -- a request gets past the whole chain
  have hon : ∀ i ∈ chain, ∀ q, (i.before q).2 = none := by
    intro i hi q
    obtain rfl | hi := List.mem_cons.1 hi
    · rfl
    · rw [List.mem_singleton.1 hi]
      rfl
  have hbehind : ∀ {h : Handler} {passed rest : List Interceptor} {q' vs x},
      chain = passed ++ rest → TurnsAt h q' rest vs x → passed = chain ∧ x = h.handle q' := by
    intro h passed rest q' vs x hsplit hturn
    cases hturn with
    | @stop i _ _ is hbefore =>
        have hnone := hon i (by rw [hsplit]; exact List.mem_append_right _ List.mem_cons_self) q'
        rw [hbefore] at hnone
        contradiction
    | handler => exact ⟨by rw [hsplit, List.append_nil], rfl⟩
  obtain ⟨passed, rest, vs, q', x, hsplit, _, hturn, _, _, _, _, hfold, _⟩ :=
    Route.Resolved.execute_folds (r := route (.failing "h" 0)) rfl q
  obtain ⟨rfl, rfl⟩ := hbehind hsplit hturn
  obtain ⟨passed, rest, vs, q₁, x, hsplit₁, _, hturn₁, _, _, hpanic, _⟩ :=
    Route.Resolved.execute_folds (r := route (.panicking "h" 0)) rfl q
  obtain ⟨rfl, rfl⟩ := hbehind hsplit₁ hturn₁
  refine ⟨rfl, rfl, ?_, (hpanic _ [] (List.append_nil _).symm rfl).1, by decide, by decide⟩
  have hsaved : (unwind chain ((Handler.failing "h" 0).handle q')).2 =
      .response (.ok (utf8 "saved")) := rfl
  have hcalm : ∀ outer inner, chain = outer ++ inner →
      (unwind inner ((Handler.failing "h" 0).handle q')).2 ≠ .panicked := by
    intro outer inner houter hpanic
    rw [houter, unwind_append, unwind_of_panicked hpanic, hpanic] at hsaved
    contradiction
  have hanswer := hfold hcalm (by rw [hsaved]; exact Outcome.noConfusion)
  exact (Outcome.response.inj (hsaved.symm.trans hanswer)).symm

end WebServer
