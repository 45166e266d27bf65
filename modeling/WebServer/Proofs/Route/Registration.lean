import Mathlib.Data.List.Nodup
import Mathlib.Data.Set.List
import WebServer.Endpoint
import WebServer.Proofs.Traversal

/-!
# WebServer.Proofs.Route.Registration

What registrations leave behind. A registration that succeeds adds its mappings at the end, one
that fails adds nothing (`addAll_eq_extendAll`), and no pattern is ever mapped twice (`Distinct`).

Main statements: when a registration fails (`exists_endpoint_eq_error_iff`), what a sequence of
registrations maps, when all of them succeed (`addAll_of_succeed`), and when they do: exactly when
their texts are patterns and no two of these are the same (`succeed_iff`). So they succeed in any
order (`succeed_perm`).
-/

namespace WebServer

namespace Route.Builder

variable {ε ι : Type} {b b' : Builder ε ι} {texts : List String} {e : ε} {i : ι}

/-- No pattern is mapped twice. -/
def Distinct (b : Builder ε ι) : Prop := (b.endpoints.map (·.1)).Nodup

/-- No pattern is taken, by others or earlier in the list, when all are distinct. -/
theorem firstTaken?_eq_none_iff {taken ps : List Pattern} :
    firstTaken? taken ps = none ↔ ps.Nodup ∧ ∀ p ∈ ps, p ∉ taken := by
  induction ps generalizing taken with
  | nil => simp [firstTaken?]
  | cons p ps ih =>
      unfold firstTaken?
      split
      · next h =>
          simp only [List.contains_iff_mem] at h
          simp [h]
      · next h =>
          simp only [List.contains_iff_mem] at h
          rw [ih, List.nodup_cons]
          simp only [List.mem_cons, not_or, forall_eq_or_imp]
          constructor
          · rintro ⟨hnd, hps⟩
            exact ⟨⟨fun hp => (hps p hp).1 rfl, hnd⟩, h, fun q hq => (hps q hq).2⟩
          · rintro ⟨⟨hp, hnd⟩, _, hps⟩
            exact ⟨hnd, fun q hq => ⟨fun hqp => hp (hqp ▸ hq), hps q hq⟩⟩

/-- Mapping patterns succeeds when the texts are patterns and all mapped patterns stay
distinct. -/
theorem endpoint_eq_ok_iff (hb : b.Distinct) :
    b.endpoint texts e = .ok b' ↔
      ∃ ps, parseAll texts = .ok ps ∧ (b.endpoints.map (·.1) ++ ps).Nodup ∧
        b' = { b with endpoints := b.endpoints ++ ps.map fun p => (p, e) } := by
  have hdistinct : ∀ ps, firstTaken? (b.endpoints.map (·.1)) ps = none ↔
      (b.endpoints.map (·.1) ++ ps).Nodup := by
    intro ps
    rw [firstTaken?_eq_none_iff, List.nodup_append']
    simp only [List.Disjoint]
    exact ⟨fun h => ⟨hb, h.1, fun p hp hps => h.2 p hps hp⟩,
      fun h => ⟨h.2.1, fun p hps hp => h.2.2 hp hps⟩⟩
  unfold endpoint
  cases parseAll texts with
  | error err => simp
  | ok ps =>
      simp only [Except.ok.injEq, exists_eq_left', ← hdistinct]
      cases firstTaken? (b.endpoints.map (·.1)) ps <;> simp [eq_comm]

/-- Texts are read one by one, and at least one is needed. -/
theorem parseAll_eq_ok_iff {ps : List Pattern} :
    parseAll texts = .ok ps ↔ texts ≠ [] ∧ texts.map Pattern.parse = ps.map .ok := by
  have hinj : Function.Injective fun x : Except PatternError Pattern =>
      x.mapError RouteError.pattern := by
    rintro (_ | _) (_ | _) <;> simp [Except.mapError]
  have hread : texts.mapM (fun t => (Pattern.parse t).mapError RouteError.pattern) = .ok ps ↔
      texts.map Pattern.parse = ps.map .ok := by
    rw [mapM_eq_ok_iff, ← (List.map_injective_iff.2 hinj).eq_iff, List.map_map, List.map_map]
    rfl
  cases texts with
  | nil => simp [parseAll]
  | cons t texts => simpa [parseAll] using hread

/-- The patterns of a registration are those of its texts. -/
theorem of_parseAll {ps : List Pattern} (h : parseAll texts = .ok ps) :
    (∀ t ∈ texts, ∃ p ∈ ps, Pattern.parse t = .ok p) ∧
      ∀ p ∈ ps, ∃ t ∈ texts, Pattern.parse t = .ok p :=
  of_mapM_eq_ok (mapM_eq_ok_iff.2 (parseAll_eq_ok_iff.1 h).2)

/-- Patterns can be mapped when there are some, all of them are read, and each of them is new. -/
theorem exists_endpoint_eq_ok_iff (hb : b.Distinct) :
    (∃ b', b.endpoint texts e = .ok b') ↔
      texts ≠ [] ∧ (∀ t ∈ texts, ∃ p, Pattern.parse t = .ok p) ∧
        (texts.map Pattern.parse).Nodup ∧
        ∀ t ∈ texts, ∀ m ∈ b.endpoints, Pattern.parse t ≠ .ok m.1 := by
  have hinj : Function.Injective (Except.ok : Pattern → Except PatternError Pattern) :=
    fun _ _ => Except.ok.inj
  simp only [endpoint_eq_ok_iff hb, List.nodup_append']
  constructor
  · rintro ⟨_, ps, hps, ⟨-, hnodup, hnew⟩, -⟩
    obtain ⟨hne, hmap⟩ := parseAll_eq_ok_iff.1 hps
    have hread := (of_parseAll hps).1
    refine ⟨hne, fun t ht => ?_, hmap ▸ hnodup.map hinj, fun t ht m hm heq => ?_⟩
    · obtain ⟨p, -, hp⟩ := hread t ht
      exact ⟨p, hp⟩
    · obtain ⟨p, hp, hparse⟩ := hread t ht
      obtain rfl := Except.ok.inj (hparse.symm.trans heq)
      exact hnew (List.mem_map_of_mem hm) hp
  · rintro ⟨hne, hread, hnodup, hnew⟩
    obtain ⟨ps, hmap⟩ : texts.map Pattern.parse ∈ Set.range (List.map Except.ok) := by
      rw [Set.range_list_map]
      exact List.forall_mem_map.2 fun t ht => (hread t ht).imp fun _ hp => hp.symm
    have hps := parseAll_eq_ok_iff.2 ⟨hne, hmap.symm⟩
    refine ⟨_, ps, hps, ⟨hb, (hmap ▸ hnodup).of_map, fun p hp hp' => ?_⟩, rfl⟩
    obtain ⟨m, hm, rfl⟩ := List.mem_map.1 hp
    obtain ⟨t, ht, hparse⟩ := (of_parseAll hps).2 m.1 hp'
    exact hnew t ht m hm hparse

/-- Mapping patterns fails without a text, for a text that is no pattern, for a pattern that stands
among them twice, and for one that is mapped already. -/
theorem exists_endpoint_eq_error_iff (hb : b.Distinct) :
    (∃ err, b.endpoint texts e = .error err) ↔
      texts = [] ∨ (∃ t ∈ texts, ∀ p, Pattern.parse t ≠ .ok p) ∨
        ¬ (texts.map Pattern.parse).Nodup ∨
        ∃ t ∈ texts, ∃ m ∈ b.endpoints, Pattern.parse t = .ok m.1 := by
  have hfails : (∃ err, b.endpoint texts e = .error err) ↔
      ¬ ∃ b', b.endpoint texts e = .ok b' := by
    cases b.endpoint texts e <;> simp
  rw [hfails, exists_endpoint_eq_ok_iff hb]
  simp only [not_and_or, not_not, not_forall, not_exists, exists_prop]

theorem interceptor_eq_ok_iff :
    b.interceptor texts i = .ok b' ↔
      ∃ ps, parseAll texts = .ok ps ∧
        b' = { b with interceptors := b.interceptors ++ ps.map fun p => (p, i) } := by
  unfold interceptor
  cases parseAll texts <;> simp [eq_comm]

end Route.Builder

namespace Registration

open Route

variable {b b' : RoutesBuilder} {r : Registration} {rs rs' : List Registration}

/-- The texts of a registration. -/
def texts : Registration → List String
  | .endpoint ts _ => ts
  | .interceptor ts _ => ts

/-- The patterns of a registration; none when a text is no pattern. -/
def patterns (r : Registration) : List Pattern :=
  match Builder.parseAll r.texts with
  | .ok ps => ps
  | .error _ => []

/-- The patterns of a registration have been read from its texts. -/
theorem parse_of_mem_patterns {p : Pattern} (h : p ∈ r.patterns) :
    ∃ t ∈ r.texts, Pattern.parse t = .ok p := by
  unfold patterns at h
  split at h
  · next hps => exact (Builder.of_parseAll hps).2 p h
  · simp at h

/-- Whether the texts of a registration are patterns. -/
def IsReadable (r : Registration) : Prop := ∃ ps, Builder.parseAll r.texts = .ok ps

/-- The endpoints that a registration maps. -/
def mappings : Registration → List (Pattern × Endpoint)
  | .endpoint ts e => (patterns (.endpoint ts e)).map fun p => (p, e)
  | .interceptor _ _ => []

/-- The interceptors that a registration puts before paths. -/
def guards : Registration → List (Pattern × Interceptor)
  | .endpoint _ _ => []
  | .interceptor ts i => (patterns (.interceptor ts i)).map fun p => (p, i)

theorem parse_of_mem_mappings {m : Pattern × Endpoint} (h : m ∈ r.mappings) :
    ∃ t, Pattern.parse t = .ok m.1 := by
  cases r with
  | endpoint ts e =>
      obtain ⟨p, hp, rfl⟩ := List.mem_map.1 h
      exact (parse_of_mem_patterns hp).imp fun t ht => ht.2
  | interceptor ts i => simp [mappings] at h

/-- The texts that a registration maps to an endpoint. -/
def endpointTexts : Registration → List String
  | .endpoint ts _ => ts
  | .interceptor _ _ => []

/-- A readable registration maps each of its texts. -/
theorem length_mappings (h : r.IsReadable) : r.mappings.length = r.endpointTexts.length := by
  cases r with
  | endpoint ts e =>
      obtain ⟨ps, hps⟩ := h
      rw [mappings, patterns, hps, List.length_map, endpointTexts]
      simpa [texts] using (congrArg List.length (Builder.parseAll_eq_ok_iff.1 hps).2).symm
  | interceptor ts i => rfl

theorem length_flatMap_mappings (h : ∀ r ∈ rs, r.IsReadable) :
    (rs.flatMap mappings).length = (rs.flatMap endpointTexts).length := by
  have hlength : ∀ r ∈ rs, r.mappings.length = r.endpointTexts.length := fun r hr =>
    length_mappings (h r hr)
  rw [List.length_flatMap, List.length_flatMap, List.map_congr_left hlength]

/-- The mappings of a readable registration are what its texts are read as. -/
theorem mem_mappings_iff (h : r.IsReadable) {p : Pattern} {e : Endpoint} :
    (p, e) ∈ r.mappings ↔ ∃ ts, r = .endpoint ts e ∧ ∃ t ∈ ts, Pattern.parse t = .ok p := by
  cases r with
  | endpoint ts e' =>
      obtain ⟨ps, hps⟩ := h
      have hread : p ∈ ps ↔ ∃ t ∈ ts, Pattern.parse t = .ok p := by
        have hmem := congrArg (.ok p ∈ ·) (Builder.parseAll_eq_ok_iff.1 hps).2
        simpa [texts] using hmem.symm
      simp [mappings, patterns, hps, hread, and_comm, eq_comm]
  | interceptor ts i => simp [mappings]

/-- Readable registrations map what a text of one of them is read as, and nothing else. -/
theorem mem_flatMap_mappings_iff (h : ∀ r ∈ rs, r.IsReadable) {p : Pattern} {e : Endpoint} :
    (p, e) ∈ rs.flatMap mappings ↔
      ∃ ts, .endpoint ts e ∈ rs ∧ ∃ t ∈ ts, Pattern.parse t = .ok p := by
  rw [List.mem_flatMap]
  constructor
  · rintro ⟨r, hr, hmem⟩
    obtain ⟨ts, rfl, ht⟩ := (mem_mappings_iff (h r hr)).1 hmem
    exact ⟨ts, hr, ht⟩
  · rintro ⟨ts, hr, ht⟩
    exact ⟨_, hr, (mem_mappings_iff (h _ hr)).2 ⟨ts, rfl, ht⟩⟩

theorem parse_of_mem_guards {m : Pattern × Interceptor} (h : m ∈ r.guards) :
    ∃ t, Pattern.parse t = .ok m.1 := by
  cases r with
  | endpoint ts e => simp [guards] at h
  | interceptor ts i =>
      obtain ⟨p, hp, rfl⟩ := List.mem_map.1 h
      exact (parse_of_mem_patterns hp).imp fun t ht => ht.2

/-- Mappings with those of a registration added. -/
def extend (b : RoutesBuilder) (r : Registration) : RoutesBuilder :=
  { b with
    endpoints := b.endpoints ++ r.mappings
    interceptors := b.interceptors ++ r.guards }

/-- A registration succeeds when its texts are patterns and all mapped patterns stay
distinct; it then adds its mappings. -/
theorem addTo_eq_ok_iff (hb : b.Distinct) :
    r.addTo b = .ok b' ↔ r.IsReadable ∧ (extend b r).Distinct ∧ b' = extend b r := by
  cases r with
  | endpoint ts e =>
      rw [addTo, Builder.endpoint_eq_ok_iff hb]
      simp only [IsReadable, texts, extend, mappings, patterns, guards, Builder.Distinct]
      cases Builder.parseAll ts <;> simp [Function.comp_def]
  | interceptor ts i =>
      rw [addTo, Builder.interceptor_eq_ok_iff]
      simp only [IsReadable, texts, extend, mappings, patterns, guards, Builder.Distinct]
      rw [Builder.Distinct] at hb
      cases Builder.parseAll ts <;> simp [hb]

/-- However registrations go, no pattern is mapped twice. -/
theorem distinct_addAll (hb : b.Distinct) (rs : List Registration) :
    (addAll b rs).2.Distinct := by
  induction rs generalizing b with
  | nil => exact hb
  | cons r rs ih =>
      unfold addAll
      split
      · next b' h =>
          obtain ⟨_, hd, rfl⟩ := (addTo_eq_ok_iff hb).1 h
          exact ih hd
      · exact ih hb

theorem contextPath_addAll (hb : b.Distinct) (rs : List Registration) :
    (addAll b rs).2.contextPath = b.contextPath := by
  induction rs generalizing b with
  | nil => rfl
  | cons r rs ih =>
      unfold addAll
      split
      · next b' h =>
          obtain ⟨_, hd, rfl⟩ := (addTo_eq_ok_iff hb).1 h
          exact ih hd
      · exact ih hb

/-- Only registrations map endpoints. -/
theorem endpoints_addAll_sublist (hb : b.Distinct) (rs : List Registration) :
    (addAll b rs).2.endpoints.Sublist (b.endpoints ++ rs.flatMap mappings) := by
  induction rs generalizing b with
  | nil => simp [addAll]
  | cons r rs ih =>
      unfold addAll
      split
      · next b' h =>
          obtain ⟨_, hd, rfl⟩ := (addTo_eq_ok_iff hb).1 h
          simpa [extend] using ih hd
      · refine (ih hb).trans ((List.Sublist.refl _).append ?_)
        rw [List.flatMap_cons]
        exact List.sublist_append_right ..

/-- A registration of an interceptor fails only for its texts, and such a registration puts it
before nothing. -/
theorem guards_of_addTo_eq_error {error : RouteError} (h : r.addTo b = .error error) :
    r.guards = [] := by
  cases r with
  | endpoint ts e => rfl
  | interceptor ts i =>
      rw [addTo, Builder.interceptor] at h
      rw [guards, patterns, texts]
      split at h
      · next hts => simp [hts]
      · contradiction

/-- Interceptors stand in the order of their registrations. -/
theorem interceptors_addAll (hb : b.Distinct) (rs : List Registration) :
    (addAll b rs).2.interceptors = b.interceptors ++ rs.flatMap guards := by
  induction rs generalizing b with
  | nil => simp [addAll]
  | cons r rs ih =>
      unfold addAll
      split
      · next b' h =>
          obtain ⟨_, hd, rfl⟩ := (addTo_eq_ok_iff hb).1 h
          simpa [extend] using ih hd
      · next h => rw [List.flatMap_cons, guards_of_addTo_eq_error h, List.nil_append, ih hb]

/-- Whether all of some registrations succeed. -/
def Succeed (b : RoutesBuilder) (rs : List Registration) : Prop :=
  ∀ error ∈ (addAll b rs).1, error = none

/-- Mappings with those of some registrations added. -/
def extendAll (b : RoutesBuilder) (rs : List Registration) : RoutesBuilder :=
  { b with
    endpoints := b.endpoints ++ rs.flatMap mappings
    interceptors := b.interceptors ++ rs.flatMap guards }

theorem extendAll_extend (b : RoutesBuilder) (r : Registration) (rs : List Registration) :
    extendAll (extend b r) rs = extendAll b (r :: rs) := by
  simp [extendAll, extend]

/-- What is distinct with more mappings was so before. -/
theorem distinct_of_extendAll (h : (extendAll b rs).Distinct) : b.Distinct := by
  rw [Builder.Distinct, extendAll, List.map_append] at h
  exact h.of_append_left

/-- Registrations succeed exactly when all texts are patterns and all mapped patterns are
distinct; they then add their mappings. -/
theorem succeed_iff (hb : b.Distinct) :
    Succeed b rs ↔ (∀ r ∈ rs, r.IsReadable) ∧ (extendAll b rs).Distinct := by
  induction rs generalizing b with
  | nil => simpa [Succeed, addAll, extendAll] using hb
  | cons r rs ih =>
      unfold Succeed addAll
      split
      · next b' h =>
          obtain ⟨hr, hd, rfl⟩ := (addTo_eq_ok_iff hb).1 h
          have hrest := ih hd
          rw [extendAll_extend] at hrest
          simpa [hr, Succeed] using hrest
      · next err h =>
          -- were the registration readable and its patterns distinct, it would have succeeded
          have hfails : ¬ (r.IsReadable ∧ (extend b r).Distinct) := by
            rintro ⟨hr, hd⟩
            rw [(addTo_eq_ok_iff hb).2 ⟨hr, hd, rfl⟩] at h
            contradiction
          constructor
          · intro hall
            simpa using hall (some err) List.mem_cons_self
          · rintro ⟨hread, hd⟩
            rw [← extendAll_extend] at hd
            exact absurd ⟨hread r List.mem_cons_self, distinct_of_extendAll hd⟩ hfails

/-- Registrations that all succeed add their mappings, in order. -/
theorem addAll_of_succeed (hb : b.Distinct) (h : Succeed b rs) :
    (addAll b rs).2 = extendAll b rs := by
  induction rs generalizing b with
  | nil => simp [addAll, extendAll]
  | cons r rs ih =>
      unfold Succeed addAll at h
      unfold addAll
      split
      · next b' hadd =>
          obtain ⟨_, hd, rfl⟩ := (addTo_eq_ok_iff hb).1 hadd
          rw [hadd] at h
          rw [← extendAll_extend]
          exact ih hd fun error herror => h error (List.mem_cons_of_mem _ herror)
      · next err hadd =>
          rw [hadd] at h
          simpa using h (some err) List.mem_cons_self

/-- The registrations that do not fail, in their order, by what is told about each. -/
def accepted (rs : List Registration) (errors : List (Option RouteError)) : List Registration :=
  ((rs.zip errors).filter (·.2.isNone)).map (·.1)

/-- The registrations that succeed, in their order. -/
def succeeded (b : RoutesBuilder) (rs : List Registration) : List Registration :=
  accepted rs (addAll b rs).1

/-- Registrations add the mappings of those that succeed, and nothing else. -/
theorem addAll_eq_extendAll (hb : b.Distinct) (rs : List Registration) :
    (addAll b rs).2 = extendAll b (succeeded b rs) := by
  induction rs generalizing b with
  | nil => simp [addAll, extendAll, succeeded, accepted]
  | cons r rs ih =>
      unfold succeeded addAll
      split
      · next b' h =>
          obtain ⟨_, hd, rfl⟩ := (addTo_eq_ok_iff hb).1 h
          simpa [succeeded, accepted, extendAll_extend] using ih hd
      · simpa [succeeded, accepted] using ih hb

theorem isReadable_of_mem_succeeded (hb : b.Distinct) (h : r ∈ succeeded b rs) :
    r ∈ rs ∧ r.IsReadable := by
  induction rs generalizing b with
  | nil => simp [succeeded, accepted] at h
  | cons r' rs ih =>
      unfold succeeded accepted addAll at h
      split at h
      · next b' hadd =>
          obtain ⟨hread, hd, rfl⟩ := (addTo_eq_ok_iff hb).1 hadd
          simp only [List.zip_cons_cons, Option.isNone_none, List.filter_cons_of_pos,
            List.map_cons, List.mem_cons] at h
          rcases h with rfl | h
          · exact ⟨List.mem_cons_self, hread⟩
          · exact (ih hd h).imp_left (List.mem_cons_of_mem _)
      · rw [List.zip_cons_cons, List.filter_cons_of_neg (by simp)] at h
        exact (ih hb h).imp_left (List.mem_cons_of_mem _)

/-- Registrations that all succeed do so in any order, and map the same. -/
theorem succeed_perm (hb : b.Distinct) (h : Succeed b rs) (hp : rs.Perm rs') :
    Succeed b rs' ∧ (addAll b rs').2.endpoints.Perm (addAll b rs).2.endpoints := by
  obtain ⟨hread, hd⟩ := (succeed_iff hb).1 h
  have hsame : (extendAll b rs').endpoints.Perm (extendAll b rs).endpoints :=
    ((hp.symm.flatMap_right _).append_left _)
  have h' : Succeed b rs' :=
    (succeed_iff hb).2 ⟨fun r hr => hread r (hp.mem_iff.2 hr), (hsame.map _).nodup_iff.2 hd⟩
  exact ⟨h', by rwa [addAll_of_succeed hb h, addAll_of_succeed hb h']⟩

end Registration

end WebServer
