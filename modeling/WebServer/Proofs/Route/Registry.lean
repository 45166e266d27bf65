import Mathlib.Data.Finset.Lattice.Lemmas
import WebServer.Proofs.Route.Guard
import WebServer.Route.Registry

/-!
# WebServer.Proofs.Route.Registry

Registrations made in place. A registry keeps the set of the patterns that are taken beside the list
of its endpoints, and the set holds those of the list, each mapped once (`Tracked`): every call
keeps that, for it looks through all of its patterns before it maps the first one (`run_call`). So a
call that fails has changed nothing, and calls in sequence collect what the registrations do
(`callAll_eq_addAll`). Since no pattern is mapped twice, none takes another's place when the tables
are filled, and the frozen registry is the router of the registrations (`freeze_eq`).

Main statement: `callAll_whole_or_nothing`.
-/

namespace WebServer

namespace Route

namespace Registry

variable {ε ι : Type} {r r' : Registry ε ι} {texts : List String} {e : ε} {i : ι}

/-- The mappings that a registry has collected. -/
def builder (r : Registry ε ι) : Builder ε ι where
  contextPath := r.contextPath
  endpoints := r.endpoints
  interceptors := r.interceptors

/-- Whether the set holds the patterns of the endpoints, and no endpoint has that of another. -/
structure Tracked (r : Registry ε ι) : Prop where
  taken : ∀ p, p ∈ r.taken ↔ p ∈ r.endpoints.map (·.1)
  distinct : r.builder.Distinct

theorem tracked_empty (context : String) :
    Tracked ({ contextPath := context } : Registry ε ι) :=
  ⟨by simp, List.nodup_nil⟩

theorem run_read (texts : List String) (r : Registry ε ι) :
    (read texts).run r =
      match Builder.parseAll texts with
      | .error err => .error err r
      | .ok ps => .ok ps r := by
  unfold read
  cases Builder.parseAll texts <;> rfl

/-- The check fails at the first pattern that is taken, and changes nothing. -/
theorem run_check {seen : Finset Pattern} {taken ps : List Pattern}
    (h : ∀ p, p ∈ taken ↔ p ∈ r.taken ∨ p ∈ seen) :
    (check seen ps).run r =
      match Builder.firstTaken? taken ps with
      | some p => .error (.duplicate p) r
      | none => .ok () r := by
  induction ps generalizing seen taken with
  | nil => rfl
  | cons p ps ih =>
      have hnext : ∀ q, q ∈ p :: taken ↔ q ∈ r.taken ∨ q ∈ insert p seen := by
        intro q
        rw [List.mem_cons, h, Finset.mem_insert]
        tauto
      unfold check Builder.firstTaken?
      by_cases hp : p ∈ taken
      · simp only [List.contains_iff_mem, hp, if_true, EStateM.run_bind, EStateM.run_get,
          (h p).1 hp]
        rfl
      · have hfree : ¬ (p ∈ r.taken ∨ p ∈ seen) := mt (h p).2 hp
        simp only [List.contains_iff_mem, hp, if_false, EStateM.run_bind, EStateM.run_get, hfree]
        exact ih hnext

theorem run_forM_modify {α : Type} (f : Registry ε ι → α → Registry ε ι) (xs : List α)
    (r : Registry ε ι) :
    (forM xs fun x => (modify (f · x) : Call ε ι Unit)).run r = .ok () (xs.foldl f r) := by
  induction xs generalizing r with
  | nil => rfl
  | cons x xs ih => exact ih (f r x)

theorem foldl_put (ps : List Pattern) (e : ε) (r : Registry ε ι) :
    ps.foldl (·.put e ·) r =
      { r with
        taken := r.taken ∪ ps.toFinset
        endpoints := r.endpoints ++ ps.map fun p => (p, e) } := by
  induction ps generalizing r with
  | nil => simp
  | cons p ps ih =>
      rw [List.foldl_cons, ih]
      simp [put]

theorem foldl_guard (ps : List Pattern) (i : ι) (r : Registry ε ι) :
    ps.foldl (·.guard i ·) r =
      { r with interceptors := r.interceptors ++ ps.map fun p => (p, i) } := by
  induction ps generalizing r with
  | nil => simp
  | cons p ps ih =>
      rw [List.foldl_cons, ih]
      simp [guard]

/-- **What a call to map patterns does.** It fails as the registration does, and changes nothing; or
it maps the patterns as the registration does. -/
theorem run_endpoint (hr : r.Tracked) (texts : List String) (e : ε) :
    (∃ err, r.builder.endpoint texts e = .error err ∧
        (endpoint texts e).run r = .error err r) ∨
      ∃ r', r.builder.endpoint texts e = .ok r'.builder ∧
        (endpoint texts e).run r = .ok () r' ∧ r'.Tracked := by
  cases hps : Builder.parseAll texts with
  | error err =>
      refine .inl ⟨err, by simp [Builder.endpoint, hps], ?_⟩
      simp [endpoint, EStateM.run_bind, run_read, hps]
  | ok ps =>
      have hcheck : (check ∅ ps).run r =
          match Builder.firstTaken? (r.endpoints.map (·.1)) ps with
          | some p => .error (.duplicate p) r
          | none => .ok () r := run_check (by simp [hr.taken])
      cases hfree : Builder.firstTaken? (r.endpoints.map (·.1)) ps with
      | some p =>
          rw [hfree] at hcheck
          refine .inl ⟨.duplicate p, by simp [Builder.endpoint, hps, builder, hfree], ?_⟩
          simp [endpoint, EStateM.run_bind, run_read, hps, hcheck]
      | none =>
          rw [hfree] at hcheck
          have hadd : r.builder.endpoint texts e = .ok (ps.foldl (·.put e ·) r).builder := by
            simp [Builder.endpoint, hps, builder, hfree, foldl_put]
          refine .inr ⟨ps.foldl (·.put e ·) r, hadd, ?_, ?_, ?_⟩
          · simpa [endpoint, EStateM.run_bind, run_read, hps, hcheck] using
              run_forM_modify (·.put e ·) ps r
          · simp [foldl_put, hr.taken]
          · obtain ⟨ps', hps', hnodup, -⟩ := (Builder.endpoint_eq_ok_iff hr.distinct).1 hadd
            obtain rfl : ps = ps' := Except.ok.inj (hps.symm.trans hps')
            simpa [Builder.Distinct, foldl_put, builder, Function.comp_def] using hnodup

/-- A call to put an interceptor before paths fails as the registration does, and changes nothing;
or it does what the registration does. -/
theorem run_interceptor (hr : r.Tracked) (texts : List String) (i : ι) :
    (∃ err, r.builder.interceptor texts i = .error err ∧
        (interceptor texts i).run r = .error err r) ∨
      ∃ r', r.builder.interceptor texts i = .ok r'.builder ∧
        (interceptor texts i).run r = .ok () r' ∧ r'.Tracked := by
  cases hps : Builder.parseAll texts with
  | error err =>
      refine .inl ⟨err, by simp [Builder.interceptor, hps], ?_⟩
      simp [interceptor, EStateM.run_bind, run_read, hps]
  | ok ps =>
      refine .inr ⟨ps.foldl (·.guard i ·) r, ?_, ?_, ?_, ?_⟩
      · simp [Builder.interceptor, hps, builder, foldl_guard]
      · simpa [interceptor, EStateM.run_bind, run_read, hps] using
          run_forM_modify (·.guard i ·) ps r
      · simpa [foldl_guard] using hr.taken
      · rw [foldl_guard]
        exact hr.distinct

end Registry

/-! ## Freezing -/

namespace Router

variable {ε ι : Type} {b : Builder ε ι} {es : List (Pattern × ε)} {m : Pattern × ε} {p : Pattern}
  {e : ε} {key : String}

/-- A key that is new is put at the end. -/
theorem insertKey_of_not_mem {entries : List (String × ε)} (h : key ∉ entries.map (·.1)) :
    insertKey key e entries = entries ++ [(key, e)] := by
  induction entries with
  | nil => rfl
  | cons entry entries ih =>
      rw [List.map_cons, List.mem_cons, not_or] at h
      rw [insertKey, if_neg (Ne.symm h.1), ih h.2]
      rfl

theorem fallback_eq_none (h : .fallback ∉ b.endpoints.map (·.1)) :
    (ofBuilder b).fallback = none :=
  Option.eq_none_iff_forall_ne_some.2 fun _ hsome => h (List.mem_map_of_mem (mem_of_fallback hsome))

/-- The tables of some mappings, before the directories are sorted. -/
def unsorted (b : Builder ε ι) : Router ε ι :=
  { ofBuilder b with
    directories := b.endpoints.filterMap fun
      | (.under d, e) => some (d, e)
      | _ => none }

/-- A mapping with a new pattern takes no other's place. -/
theorem file_unsorted (h : p ∉ b.endpoints.map (·.1)) :
    (unsorted b).file (p, e) = unsorted { b with endpoints := b.endpoints ++ [(p, e)] } := by
  have hnew : ∀ e', (p, e') ∉ b.endpoints := fun e' he' => h (List.mem_map_of_mem he')
  cases p with
  | exact path =>
      have hkey : path ∉ (ofBuilder b).exact.map (·.1) := by
        simpa [mem_exact] using hnew
      have hfile : insertKey path e (unsorted b).exact = (ofBuilder b).exact ++ [(path, e)] :=
        insertKey_of_not_mem hkey
      rw [file, hfile]
      simp [unsorted, ofBuilder]
  | under d => simp [file, unsorted, ofBuilder]
  | ext x =>
      have hkey : x ∉ (ofBuilder b).extensions.map (·.1) := by
        simpa [mem_extensions] using hnew
      have hfile : insertKey x e (unsorted b).extensions = (ofBuilder b).extensions ++ [(x, e)] :=
        insertKey_of_not_mem hkey
      rw [file, hfile]
      simp [unsorted, ofBuilder]
  | fallback =>
      have hnone := fallback_eq_none h
      simp only [ofBuilder] at hnone
      simp [file, unsorted, ofBuilder, hnone]

/-- Mappings with different patterns are all filed, in their order. -/
theorem foldl_file_unsorted (b : Builder ε ι) (front : List (Pattern × ε))
    (h : ((front ++ es).map (·.1)).Nodup) :
    es.foldl file (unsorted { b with endpoints := front }) =
      unsorted { b with endpoints := front ++ es } := by
  induction es generalizing front with
  | nil => simp
  | cons m es ih =>
      have hnew : m.1 ∉ front.map (·.1) := by
        rw [List.map_append, List.map_cons, List.nodup_middle, List.nodup_cons,
          List.mem_append, not_or] at h
        exact h.1.1
      rw [List.foldl_cons, file_unsorted hnew, ih (front ++ [m])]
      · simp
      · simpa using h

theorem mem_of_mapped? (h : (ofBuilder b).mapped? p = some e) : (p, e) ∈ b.endpoints := by
  have hmem : ∀ {key : String} {entries : List (String × ε)},
      entries.lookup key = some e → (key, e) ∈ entries := by
    intro key entries hlookup
    obtain ⟨before, behind, rfl, -⟩ := List.lookup_eq_some_iff.1 hlookup
    simp
  cases p with
  | exact path => exact mem_exact.1 (hmem h)
  | under d => exact mem_directories.1 (hmem h)
  | ext x => exact mem_extensions.1 (hmem h)
  | fallback => exact mem_of_fallback h

theorem not_mem_of_mapped? (h : (ofBuilder b).mapped? p = none) : (p, e) ∉ b.endpoints := by
  have hmem : ∀ {key : String} {entries : List (String × ε)},
      entries.lookup key = none → (key, e) ∉ entries := by
    intro key entries hlookup hkey
    simpa using List.lookup_eq_none_iff.1 hlookup _ hkey
  cases p with
  | exact path => exact mt mem_exact.2 (hmem h)
  | under d => exact mt mem_directories.2 (hmem h)
  | ext x => exact mt mem_extensions.2 (hmem h)
  | fallback => exact not_mem_of_fallback h

/-- The router maps a pattern to what it was registered with. -/
theorem mapped?_eq_some_iff (hb : b.Distinct) :
    (ofBuilder b).mapped? p = some e ↔ (p, e) ∈ b.endpoints := by
  constructor
  · exact mem_of_mapped?
  · intro hmem
    cases hfound : (ofBuilder b).mapped? p with
    | none => exact absurd hmem (not_mem_of_mapped? hfound)
    | some e' =>
        have hsame := List.inj_on_of_nodup_map hb (mem_of_mapped? hfound) hmem rfl
        rw [(Prod.mk.inj hsame).2]

/-- The router counts each mapping. -/
theorem endpointCount_ofBuilder (hb : b.Distinct) :
    (ofBuilder b).endpointCount = b.endpoints.length := by
  obtain ⟨context, es, is⟩ := b
  induction es with
  | nil => simp [endpointCount, ofBuilder]
  | cons m es ih =>
      obtain ⟨hnew, hes⟩ := List.nodup_cons.1 hb
      have hcount := ih hes
      obtain ⟨p, e⟩ := m
      cases p with
      | fallback =>
          have hnone : (ofBuilder ⟨context, es, is⟩).fallback = none := fallback_eq_none hnew
          simp only [endpointCount, ofBuilder, List.length_mergeSort] at hcount hnone ⊢
          simp [hnone] at hcount ⊢
          omega
      | _ =>
          simp only [endpointCount, ofBuilder, List.length_mergeSort] at hcount ⊢
          simp
          omega

end Router

namespace Registry

/-- The frozen registry is the router of the mappings that it has collected. -/
theorem freeze_eq {ε ι : Type} {r : Registry ε ι} (hr : r.Tracked) :
    r.freeze = Router.ofBuilder r.builder := by
  have hfiled : r.endpoints.foldl Router.file r.bare = Router.unsorted r.builder :=
    Router.foldl_file_unsorted r.builder [] hr.distinct
  rw [freeze, hfiled]
  rfl

end Registry

end Route

namespace Registration

open Route

/-! ## Calls in sequence -/

variable {r r' : Registry Endpoint Interceptor}

/-- A call does what the registration does, or fails with the same error and changes nothing. -/
theorem run_call (hr : r.Tracked) (c : Registration) :
    (∃ err, c.addTo r.builder = .error err ∧ c.call.run r = .error err r) ∨
      ∃ r', c.addTo r.builder = .ok r'.builder ∧ c.call.run r = .ok () r' ∧ r'.Tracked := by
  cases c with
  | endpoint ts e => exact Registry.run_endpoint hr ts e
  | interceptor ts i => exact Registry.run_interceptor hr ts i

/-- Calls in sequence fail as the registrations do, and collect the same mappings. -/
theorem callAll_eq_addAll (hr : r.Tracked) (cs : List Registration) :
    (callAll r cs).1 = (addAll r.builder cs).1 ∧
      (callAll r cs).2.builder = (addAll r.builder cs).2 ∧ (callAll r cs).2.Tracked := by
  induction cs generalizing r with
  | nil => exact ⟨rfl, rfl, hr⟩
  | cons c cs ih =>
      unfold callAll addAll
      rcases run_call hr c with ⟨err, hadd, hrun⟩ | ⟨r', hadd, hrun, hr'⟩
      · simpa [hadd, hrun] using ih hr
      · simpa [hadd, hrun] using ih hr'

/-- Calls in sequence map what is registered by those that succeed, which are readable. -/
theorem endpoints_callAll (context : String) (regs : List Registration) :
    let run := callAll { contextPath := context } regs
    run.2.endpoints = (accepted regs run.1).flatMap mappings ∧
      ∀ c ∈ accepted regs run.1, c.IsReadable := by
  intro run
  have hstart : ({ contextPath := context } : RoutesBuilder).Distinct := List.nodup_nil
  obtain ⟨herrors, hbuilder, -⟩ := callAll_eq_addAll (Registry.tracked_empty context) regs
  have hdone : accepted regs run.1 = succeeded { contextPath := context } regs :=
    congrArg (accepted regs) herrors
  rw [hdone]
  constructor
  · have hadd := hbuilder.trans (addAll_eq_extendAll hstart regs)
    have hendpoints := congrArg (·.endpoints) hadd
    simp only [extendAll, List.nil_append] at hendpoints
    exact hendpoints
  · exact fun c hc => (isReadable_of_mem_succeeded hstart hc).2

/-- A pattern is mapped exactly when a call that succeeded has a text that is read as it. -/
theorem mem_endpoints_callAll (context : String) (regs : List Registration) {p : Pattern}
    {e : Endpoint} :
    let run := callAll { contextPath := context } regs
    (p, e) ∈ run.2.endpoints ↔
      ∃ ts, .endpoint ts e ∈ accepted regs run.1 ∧ ∃ t ∈ ts, Pattern.parse t = .ok p := by
  intro run
  obtain ⟨hendpoints, hread⟩ := endpoints_callAll context regs
  rw [hendpoints]
  exact mem_flatMap_mappings_iff hread

/-- A call fails exactly when the registration does, and leaves the registry as it was. -/
theorem run_call_eq_error_iff (hr : r.Tracked) (c : Registration) (err : RouteError) :
    c.call.run r = .error err r' ↔ c.addTo r.builder = .error err ∧ r' = r := by
  rcases run_call hr c with ⟨err', hadd, hrun⟩ | ⟨r'', hadd, hrun, -⟩
  · simp [hadd, hrun, eq_comm]
  · simp [hadd, hrun]

theorem exists_run_call_eq_error_iff (hr : r.Tracked) (c : Registration) :
    (∃ err r', c.call.run r = .error err r') ↔ ∃ err, c.addTo r.builder = .error err := by
  simp [run_call_eq_error_iff hr]

/-- A pattern is mapped already exactly when a text of a call that succeeded is read alike. -/
theorem exists_mem_endpoints_callAll_iff (context : String) (regs : List Registration)
    {text : String} :
    let run := callAll { contextPath := context } regs
    (∃ m ∈ run.2.endpoints, Pattern.parse text = .ok m.1) ↔
      ∃ ts e, .endpoint ts e ∈ accepted regs run.1 ∧
        ∃ t ∈ ts, Pattern.parse text = Pattern.parse t := by
  intro run
  constructor
  · rintro ⟨⟨p, e⟩, hm, htext⟩
    obtain ⟨ts, hts, t, ht, hread⟩ := (mem_endpoints_callAll context regs).1 hm
    exact ⟨ts, e, hts, t, ht, htext.trans hread.symm⟩
  · rintro ⟨ts, e, hts, t, ht, htext⟩
    obtain ⟨ps, hps⟩ := (endpoints_callAll context regs).2 _ hts
    obtain ⟨p, -, hread⟩ := (Builder.of_parseAll hps).1 t ht
    exact ⟨(p, e), (mem_endpoints_callAll context regs).2 ⟨ts, hts, t, ht, hread⟩,
      htext.trans hread⟩

/-- **A registration is made as a whole or not at all, and none is lost.** For all calls in any
order, failing ones among them. A further call that fails leaves the registry as it was. A call that
maps patterns fails exactly without a text, for a text that is no pattern, when two of its texts are
read as the same pattern, and when one is read as a pattern that a call before it has mapped. Texts
are read as the same pattern exactly when they are the same without the white space around them, and
a pattern is read back from the text it is shown as. The router counts the texts of the calls that
succeeded, and maps the pattern of each of them to its endpoint, and no other. And it is the router
of the registrations. -/
theorem callAll_whole_or_nothing (context : String) (regs : List Registration) :
    let run := callAll { contextPath := context } regs
    let done := accepted regs run.1
    let router := run.2.freeze
    (∀ (c : Registration) err r', c.call.run run.2 = .error err r' → r' = run.2) ∧
      (∀ texts e, (∃ err r', (Registry.endpoint texts e).run run.2 = .error err r') ↔
        texts = [] ∨ (∃ t ∈ texts, ∀ p, Pattern.parse t ≠ .ok p) ∨
          ¬ (texts.map Pattern.parse).Nodup ∨
          ∃ t ∈ texts, ∃ ts e', .endpoint ts e' ∈ done ∧
            ∃ t' ∈ ts, Pattern.parse t = Pattern.parse t') ∧
      (∀ t p, Pattern.parse t = .ok p → Pattern.parse p.text = .ok p ∧
        ∀ t' p', Pattern.parse t' = .ok p' → (p = p' ↔ trimText t = trimText t')) ∧
      router.endpointCount = (done.flatMap endpointTexts).length ∧
      (∀ p e, router.mapped? p = some e ↔
        ∃ ts, .endpoint ts e ∈ done ∧ ∃ t ∈ ts, Pattern.parse t = .ok p) ∧
      (run.1, router) = (addAll { contextPath := context } regs).map id Router.ofBuilder := by
  intro run done router
  obtain ⟨herrors, hbuilder, htracked⟩ := callAll_eq_addAll (Registry.tracked_empty context) regs
  obtain ⟨hendpoints, hread⟩ := endpoints_callAll context regs
  have hrouter : router = Router.ofBuilder run.2.builder := Registry.freeze_eq htracked
  refine ⟨fun c err r' h => ((run_call_eq_error_iff htracked c err).1 h).2, fun texts e => ?_,
    fun t p h => ⟨Pattern.parse_text h, fun t' p' h' => Pattern.parse_eq_iff h h'⟩, ?_,
    fun p e => ?_, ?_⟩
  · have hfails : (∃ err r', (Registry.endpoint texts e).run run.2 = .error err r') ↔
        ∃ err, run.2.builder.endpoint texts e = .error err :=
      exists_run_call_eq_error_iff htracked (.endpoint texts e)
    rw [hfails, Builder.exists_endpoint_eq_error_iff htracked.distinct]
    simp only [← exists_mem_endpoints_callAll_iff, done, run]
    rfl
  · rw [hrouter, Router.endpointCount_ofBuilder htracked.distinct]
    exact (congrArg List.length hendpoints).trans (length_flatMap_mappings hread)
  · rw [hrouter, Router.mapped?_eq_some_iff htracked.distinct]
    exact mem_endpoints_callAll context regs
  · rw [hrouter]
    exact Prod.ext herrors (congrArg Router.ofBuilder hbuilder)

/-- The second registration fails for its second text, so the pattern of its first stays free. -/
theorem callAll_whole_or_nothing_of_duplicate :
    let other : Endpoint := .http { page with name := "other" }
    let regs : List Registration :=
      [.endpoint ["/a", " *.x"] (.http page), .endpoint ["/b", "/a "] other,
        .interceptor ["/*", ""] Router.guard, .endpoint ["/b"] (.http page)]
    let run := callAll { contextPath := "/app/" } regs
    run.1 = [none, some (.duplicate (.exact "/a")), some (.pattern .empty), none] ∧
      run.2.freeze.endpointCount = 3 ∧ run.2.freeze.mapped? (.exact "/b") = some (.http page) ∧
      ∃ err, (Registry.endpoint ["/c", "/b"] other).run run.2 = .error err run.2 := by
  intro other regs run
  obtain ⟨hwhole, hfails, -, hcount, hmapped, -⟩ := callAll_whole_or_nothing "/app/" regs
  have hb : Pattern.parse "/b" = .ok (.exact "/b") := by decide
  have hdone : accepted regs run.1 =
      [.endpoint ["/a", " *.x"] (.http page), .endpoint ["/b"] (.http page)] := rfl
  have htaken : .endpoint ["/b"] (.http page) ∈ accepted regs run.1 := by simp [hdone]
  obtain ⟨err, r', hrun⟩ := (hfails ["/c", "/b"] other).2 (.inr (.inr (.inr
    ⟨"/b", by simp, ["/b"], .http page, htaken, "/b", by simp, rfl⟩)))
  obtain rfl := hwhole (.endpoint ["/c", "/b"] other) err r' hrun
  exact ⟨rfl, hcount.trans rfl,
    (hmapped _ _).2 ⟨["/b"], htaken, "/b", by simp, hb⟩, err, hrun⟩

end Registration

end WebServer
