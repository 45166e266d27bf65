import WebServer.Proofs.Route.Precedence
import WebServer.Proofs.Route.Registration

/-!
# WebServer.Proofs.Route.Resolution

Which registration a path leads to. The context path is taken off the path, and the rest is
looked up; since no pattern is mapped twice, the answer is the one best mapping, and the order
of the registrations does not matter.

Main statement: `resolve_finds_best`.
-/

namespace WebServer

namespace Route

/-! ## The context path -/

/-- What is left of a path below a context path; the context path itself stands for its
root. -/
def Rest (context path rest : String) : Prop :=
  if context = "" then rest = path
  else (path = context ∧ rest = "/") ∨ (path = context ++ rest ∧ rest.toList.head? = some '/')

namespace Router

variable {ε ι : Type} {r : Router ε ι} {b : Builder ε ι} {path rest : String}

theorem after?_toList_eq_some_iff {front path : String} {cs : List Char} :
    Pattern.after? front.toList path.toList = some cs ↔ path = front ++ String.ofList cs := by
  rw [Pattern.after?_eq_some_iff, ← String.toList_inj, String.toList_append, String.toList_ofList]

theorem strip?_eq_some_iff : r.strip? path = some rest ↔ Rest r.contextPath path rest := by
  unfold strip? Rest
  by_cases hc : r.contextPath = ""
  · rw [hc, if_pos (by decide), if_pos rfl, Option.some.injEq]
    exact eq_comm
  · rw [if_neg (by simpa using hc), if_neg hc]
    split
    · next h =>
        -- the path is the context path itself
        obtain rfl : path = r.contextPath := by
          simpa using after?_toList_eq_some_iff.1 h
        constructor
        · exact fun h => .inl ⟨rfl, (Option.some.inj h).symm⟩
        · rintro (⟨_, rfl⟩ | ⟨hpath, hhead⟩)
          · rfl
          · have hlen := congrArg (·.toList.length) hpath
            simp only [String.toList_append, List.length_append] at hlen
            rw [List.length_eq_zero_iff.1 (by omega : rest.toList.length = 0)] at hhead
            contradiction
    · next cs h =>
        rw [after?_toList_eq_some_iff] at h
        subst h
        constructor
        · rintro h
          obtain rfl := Option.some.inj h
          exact .inr ⟨rfl, by simp⟩
        · rintro (⟨hpath, _⟩ | ⟨hpath, _⟩)
          · have hlen := congrArg (·.toList.length) hpath
            simp [String.toList_append] at hlen
          · rw [String.append_right_inj] at hpath
            rw [hpath]
    · next hnil hcons =>
        refine ⟨fun h => by contradiction, ?_⟩
        rintro (⟨rfl, _⟩ | ⟨hpath, hhead⟩)
        · exact absurd (after?_toList_eq_some_iff.2 (by simp)) hnil
        · obtain ⟨cs, hcs⟩ : ∃ cs, rest.toList = '/' :: cs := by
            cases hr : rest.toList with
            | nil => simp [hr] at hhead
            | cons c cs => exact ⟨cs, by simpa [hr] using hhead⟩
          refine absurd (after?_toList_eq_some_iff.2 ?_) (hcons cs)
          rw [← hcs, String.ofList_toList, hpath]

/-- The context path of a router is that of its mappings without the slashes at its end. -/
theorem contextPath_ofBuilder (b : Builder ε ι) :
    (∃ k, b.contextPath = (ofBuilder b).contextPath ++ String.ofList (List.replicate k '/')) ∧
      (ofBuilder b).contextPath.toList.getLast? ≠ some '/' := by
  constructor
  · have hslashes : ((b.contextPath.toList.reverse.takeWhile (· = '/')).reverse) =
        List.replicate (b.contextPath.toList.reverse.takeWhile (· = '/')).length '/' := by
      rw [List.eq_replicate_iff, List.length_reverse]
      refine ⟨rfl, fun c hc => ?_⟩
      simpa using List.all_eq_true.1 List.all_takeWhile c (List.mem_reverse.1 hc)
    refine ⟨(b.contextPath.toList.reverse.takeWhile (· = '/')).length, ?_⟩
    rw [← hslashes, ofBuilder, ← String.ofList_append, ← List.reverse_append,
      List.takeWhile_append_dropWhile, List.reverse_reverse, String.ofList_toList]
  · rw [ofBuilder, String.toList_ofList, List.getLast?_reverse]
    intro h
    have hhead := List.head?_dropWhile_not (fun c => decide (c = '/')) b.contextPath.toList.reverse
    rw [h] at hhead
    simp at hhead

/-! ## Whole paths -/

/-- Outside the context path nothing is found. -/
theorem resolve_of_strip?_eq_none (h : r.strip? path = none) : r.resolve path = none := by
  simp only [resolve, h, Option.bind_eq_bind, Option.bind_none]

/-- Below the context path the rest of the path is looked up. -/
theorem resolve_of_strip? (h : r.strip? path = some rest) :
    r.resolve path = (r.endpoint? rest).map fun m =>
      { endpoint := m.2, pattern := m.1, interceptors := r.interceptorsFor rest } := by
  simp only [resolve, h, Option.bind_eq_bind, Option.bind_some, Option.pure_def]
  cases r.endpoint? rest <;> rfl

/-- What is found for a path, its interceptors aside. -/
def chosen (r : Router ε ι) (path : String) : Option (Pattern × ε) :=
  (r.resolve path).map fun m => (m.pattern, m.endpoint)

theorem chosen_of_strip? (h : r.strip? path = some rest) : r.chosen path = r.endpoint? rest := by
  rw [chosen, resolve_of_strip? h]
  cases r.endpoint? rest <;> rfl

/-- Mappings in another order lead to the same, if no pattern is mapped twice. -/
theorem resolve_perm {b b' : Builder ε ι} (hb : b.Distinct)
    (hcontext : b'.contextPath = b.contextPath) (hp : b.endpoints.Perm b'.endpoints) (path : String) :
    (ofBuilder b').chosen path = (ofBuilder b).chosen path ∧
      (b'.interceptors = b.interceptors →
        (ofBuilder b').resolve path = (ofBuilder b).resolve path) := by
  have htrimmed : (ofBuilder b').contextPath = (ofBuilder b).contextPath := by
    simp only [ofBuilder, hcontext]
  have hstrip : (ofBuilder b').strip? path = (ofBuilder b).strip? path := by
    unfold strip?
    rw [htrimmed]
  cases hrest : (ofBuilder b).strip? path with
  | none =>
      rw [hrest] at hstrip
      rw [chosen, chosen, resolve_of_strip?_eq_none hstrip, resolve_of_strip?_eq_none hrest]
      exact ⟨rfl, fun _ => rfl⟩
  | some rest =>
      rw [hrest] at hstrip
      have hsame := endpoint?_perm hb hp rest
      refine ⟨by rw [chosen_of_strip? hstrip, chosen_of_strip? hrest, hsame], fun hi => ?_⟩
      have hguards : (ofBuilder b').interceptorsFor rest = (ofBuilder b).interceptorsFor rest := by
        simp only [interceptorsFor, ofBuilder, hi]
      rw [resolve_of_strip? hstrip, resolve_of_strip? hrest, hsame, hguards]

/-! ## Registrations -/

open Registration (addAll Succeed)

/-- **A path leads to the best mapping below the context path**, for all registrations in any
order, failing ones among them, and for every context path and request path:

* the context path counts without the slashes at its end, and a path outside it leads nowhere;
* below it, what is left of the path leads to the endpoint of a pattern exactly when the
  pattern is mapped to it, matches, and is outranked by no mapped pattern that matches; it
  leads nowhere exactly when no mapped pattern matches;
* registrations that all succeed do so in any order, and registrations with the same mappings
  lead a path to the same pattern and endpoint. -/
theorem resolve_finds_best (context : String) (regs : List Registration) (path : String) :
    let start : RoutesBuilder := { contextPath := context }
    let b := (addAll start regs).2
    let r := ofBuilder b
    ((∃ k, context = r.contextPath ++ String.ofList (List.replicate k '/')) ∧
      r.contextPath.toList.getLast? ≠ some '/') ∧
    ((∀ q, ¬ Rest r.contextPath path q) → r.resolve path = none) ∧
    (∀ q, Rest r.contextPath path q →
      (∀ p e, (∃ m, r.resolve path = some m ∧ m.pattern = p ∧ m.endpoint = e) ↔
        Best b.endpoints q p e) ∧
      (r.resolve path = none ↔ ∀ m ∈ b.endpoints, m.1.isMatch q = false)) ∧
    ∀ regs', let b' := (addAll start regs').2
      (Succeed start regs → regs.Perm regs' →
        Succeed start regs' ∧ b.endpoints.Perm b'.endpoints) ∧
      (b.endpoints.Perm b'.endpoints →
        (ofBuilder b').chosen path = r.chosen path ∧
          (b'.interceptors = b.interceptors → (ofBuilder b').resolve path = r.resolve path)) := by
  intro start b r
  have hstart : start.Distinct := List.nodup_nil
  have hb : b.Distinct := Registration.distinct_addAll hstart regs
  have hcontext : ∀ regs, (addAll start regs).2.contextPath = context :=
    Registration.contextPath_addAll hstart
  refine ⟨?_, ?_, ?_, ?_⟩
  · have htrim := contextPath_ofBuilder b
    rwa [hcontext regs] at htrim
  · intro hout
    refine resolve_of_strip?_eq_none (Option.eq_none_iff_forall_ne_some.2 fun q hq => ?_)
    exact hout q (strip?_eq_some_iff.1 hq)
  · intro q hq
    have hrest := strip?_eq_some_iff.2 hq
    rw [resolve_of_strip? hrest]
    refine ⟨fun p e => ?_, by rw [Option.map_eq_none_iff]; exact endpoint?_eq_none_iff⟩
    rw [← endpoint?_eq_some_iff hb]
    constructor
    · rintro ⟨m, hm, rfl, rfl⟩
      obtain ⟨m', hm', rfl⟩ := Option.map_eq_some_iff.1 hm
      exact hm'
    · intro hfound
      exact ⟨_, by rw [hfound]; rfl, rfl, rfl⟩
  · intro regs' b'
    refine ⟨fun hall hperm => ?_, fun hperm => ?_⟩
    · obtain ⟨hall', hsame⟩ := Registration.succeed_perm hstart hall hperm
      exact ⟨hall', hsame.symm⟩
    · exact resolve_perm hb ((hcontext regs').trans (hcontext regs).symm) hperm path

/-- A handler that shows a page. -/
def page : Handler := { name := "page", handle := fun q => (q, .response (.ok (utf8 "page"))) }

/-- The page below two directories, and by an extension. -/
def pages : List Registration :=
  [.endpoint ["/*", "/json/*"] (.http page), .endpoint ["*.json"] (.http page)]

/-- Below `/app/` the longest of two directories wins over an extension, also when it is
registered last. -/
theorem resolve_finds_best_under_app :
    let b := (addAll { contextPath := "/app/" } pages).2
    (∃ m, (ofBuilder b).resolve "/app/json/a.json" = some m ∧ m.pattern = .under "/json") ∧
      (ofBuilder b).resolve "/application" = none ∧
      (ofBuilder (addAll { contextPath := "/app/" } pages.reverse).2).chosen "/app/json/a.json" =
        (ofBuilder b).chosen "/app/json/a.json" := by
  dsimp only
  obtain ⟨_, _, hinside, horder⟩ := resolve_finds_best "/app/" pages "/app/json/a.json"
  obtain ⟨_, houtside, _⟩ := resolve_finds_best "/app/" pages "/application"
  have hsucceed : Succeed { contextPath := "/app/" } pages := by
    have herrors : (addAll { contextPath := "/app/" } pages).1 = [none, none] := by
      decide +kernel
    simp [Succeed, herrors]
  obtain ⟨_, hsame⟩ := (horder pages.reverse).1 hsucceed (List.reverse_perm pages).symm
  have hreversed := ((horder pages.reverse).2 hsame).1
  have hmapped : (addAll { contextPath := "/app/" } pages).2.endpoints =
      [(.under "", .http page), (.under "/json", .http page), (.ext "json", .http page)] := rfl
  have hcontext : (ofBuilder (addAll { contextPath := "/app/" } pages).2).contextPath = "/app" := by
    decide
  clear horder hsame
  -- only these two facts about the mappings are needed
  generalize (addAll { contextPath := "/app/" } pages).2 = b at *
  rw [hcontext] at hinside houtside
  have hrest : Rest "/app" "/app/json/a.json" "/json/a.json" := by
    rw [Rest]
    decide
  have hbest : Best b.endpoints "/json/a.json" (.under "/json") (.http page) := by
    rw [hmapped]
    exact ⟨by simp, by decide, by simp; decide⟩
  have hout : ∀ q, ¬ Rest "/app" "/application" q := by
    intro q hq
    rw [Rest, if_neg (by decide)] at hq
    rcases hq with ⟨hsame, _⟩ | ⟨hpath, hhead⟩
    · exact absurd hsame (by decide)
    · have hafter : Pattern.after? "/app".toList "/application".toList = some q.toList :=
        after?_toList_eq_some_iff.2 (by rw [String.ofList_toList]; exact hpath)
      have hlication : Pattern.after? "/app".toList "/application".toList =
          some "lication".toList := by decide
      rw [Option.some.inj (hafter.symm.trans hlication)] at hhead
      exact absurd hhead (by decide)
  refine ⟨?_, houtside hout, hreversed⟩
  obtain ⟨m, hm, hpattern, _⟩ := ((hinside _ hrest).1 _ _).2 hbest
  exact ⟨m, hm, hpattern⟩

end Router

end Route

end WebServer
