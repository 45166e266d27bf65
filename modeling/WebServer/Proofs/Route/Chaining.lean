import WebServer.Proofs.Route.Guard

/-!
# WebServer.Proofs.Route.Chaining

How often an interceptor stands before a path. A registration puts its interceptor before each of
its patterns apart, and every pattern that matches a path adds it to the chain. So the chain holds
it as often as there are such patterns, and once only where these do not overlap.

Main statement: `Router.interceptorsFor_once_iff`.
-/

namespace WebServer

namespace Registration

open Route

variable {b : RoutesBuilder} {r : Registration} {rs : List Registration} {path : String}

/-- How many patterns of a registration match a path. -/
def hits (path : String) (r : Registration) : Nat := r.patterns.countP (·.isMatch path)

/-- The interceptor of a registration, if that is what it registers. -/
def interceptor? : Registration → Option Interceptor
  | .endpoint _ _ => none
  | .interceptor _ i => some i

/-- What a registration adds to the chain of a path: its interceptor, once for each pattern that
matches. -/
def chained (path : String) (r : Registration) : List Interceptor :=
  r.interceptor?.toList.flatMap (List.replicate (r.hits path))

/-- The interceptor of a registration, once if a pattern matches the path. -/
def chainedOnce (path : String) (r : Registration) : List Interceptor :=
  if r.hits path = 0 then [] else r.interceptor?.toList

/-- The guards of a registration that match a path. -/
theorem map_filter_guards (path : String) (r : Registration) :
    (r.guards.filter (·.1.isMatch path)).map (·.2) = r.chained path := by
  cases r with
  | endpoint ts e => rfl
  | interceptor ts i =>
      simp [guards, chained, hits, interceptor?, List.filter_map, Function.comp_def,
        List.countP_eq_length_filter]

/-- A registration adds its interceptor at least once if a pattern matches. -/
theorem length_chainedOnce_le (path : String) (r : Registration) :
    (r.chainedOnce path).length ≤ (r.chained path).length := by
  by_cases h : r.hits path = 0
  · simp [chainedOnce, h]
  · cases hi : r.interceptor? with
    | none => simp [chainedOnce, chained, hi]
    | some i =>
        simp [chainedOnce, chained, hi, h]
        omega

theorem length_flatMap_chainedOnce_le (path : String) (rs : List Registration) :
    (rs.flatMap (chainedOnce path)).length ≤ (rs.flatMap (chained path)).length := by
  induction rs with
  | nil => simp
  | cons r rs ih =>
      have hr := length_chainedOnce_le path r
      simp only [List.flatMap_cons, List.length_append]
      omega

theorem chained_eq_iff :
    r.chained path = r.chainedOnce path ↔ ∀ i, r.interceptor? = some i → r.hits path ≤ 1 := by
  cases hi : r.interceptor? with
  | none => simp [chained, chainedOnce, hi]
  | some i =>
      simp only [chained, chainedOnce, hi, Option.toList_some, List.flatMap_singleton]
      match r.hits path with
      | 0 => simp
      | 1 => simp
      | n + 2 => simp [List.replicate_succ]

/-- A chain holds no interceptor twice for one registration exactly when no registration adds one
twice: what one adds too many, no other takes away. -/
theorem flatMap_chained_eq_iff :
    rs.flatMap (chained path) = rs.flatMap (chainedOnce path) ↔
      ∀ r ∈ rs, ∀ i, r.interceptor? = some i → r.hits path ≤ 1 := by
  simp only [← chained_eq_iff]
  induction rs with
  | nil => simp
  | cons r rs ih =>
      rw [List.flatMap_cons, List.flatMap_cons, List.forall_mem_cons, ← ih]
      constructor
      · intro h
        have hlength := congrArg List.length h
        have hr := length_chainedOnce_le path r
        have hrs := length_flatMap_chainedOnce_le path rs
        simp only [List.length_append] at hlength
        exact List.append_inj h (by omega)
      · rintro ⟨hr, hrs⟩
        rw [hr, hrs]

end Registration

namespace Route.Router

open Registration (addAll succeeded chained chainedOnce)

/-- **How often an interceptor joins a chain**, for all registrations in any order, failing ones
among them, and every path. The chain holds the interceptor of each registration that succeeded as
often as there are patterns of it that match the path, in the order of the registrations. So it
holds each of them once where a pattern matches, and no other, exactly when of no registration more
than one pattern matches. -/
theorem interceptorsFor_once_iff (context : String) (regs : List Registration) (path : String) :
    let start : RoutesBuilder := { contextPath := context }
    let r := ofBuilder (addAll start regs).2
    let done := succeeded start regs
    r.interceptorsFor path = done.flatMap (chained path) ∧
      (r.interceptorsFor path = done.flatMap (chainedOnce path) ↔
        ∀ ts i, .interceptor ts i ∈ done →
          (Registration.interceptor ts i).patterns.countP (·.isMatch path) ≤ 1) := by
  intro start r done
  have hstart : start.Distinct := List.nodup_nil
  have hchain : r.interceptorsFor path = done.flatMap (chained path) := by
    have hguards : r.interceptors = done.flatMap Registration.guards := by
      simp [r, ofBuilder, Registration.addAll_eq_extendAll hstart, Registration.extendAll, start,
        done]
    simp [interceptorsFor, hguards, List.filter_flatMap, List.map_flatMap,
      Registration.map_filter_guards]
  refine ⟨hchain, ?_⟩
  rw [hchain, Registration.flatMap_chained_eq_iff]
  constructor
  · intro h ts i hmem
    exact h _ hmem i rfl
  · intro h reg hmem i hi
    cases reg with
    | endpoint ts e => simp [Registration.interceptor?] at hi
    | interceptor ts i => exact h ts i hmem

/-- Two patterns of one registration match the path `/a`, so its interceptor joins that chain twice;
it joins the chain of `/b` once. -/
theorem interceptorsFor_once_iff_of_overlap :
    let regs : List Registration :=
      [.interceptor ["/*", "/a"] guard, .interceptor ["*.", "/a"] guard,
        .endpoint ["/"] (.http page)]
    let r := ofBuilder (addAll {} regs).2
    (r.interceptorsFor "/a" = [guard, guard] ∧
        (succeeded {} regs).flatMap (chainedOnce "/a") = [guard]) ∧
      r.interceptorsFor "/b" = [guard] := by
  intro regs r
  have hdone : succeeded {} regs =
      [.interceptor ["/*", "/a"] guard, .endpoint ["/"] (.http page)] := rfl
  obtain ⟨htwice, -⟩ := interceptorsFor_once_iff "" regs "/a"
  obtain ⟨-, honce⟩ := interceptorsFor_once_iff "" regs "/b"
  refine ⟨⟨htwice, rfl⟩, honce.2 fun ts i hmem => ?_⟩
  rw [hdone] at hmem
  simp at hmem
  obtain ⟨rfl, rfl⟩ := hmem
  decide

end Route.Router

end WebServer
