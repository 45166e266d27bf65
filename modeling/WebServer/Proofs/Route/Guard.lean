import WebServer.Proofs.Request.Stage
import WebServer.Proofs.Route.Pattern
import WebServer.Proofs.Route.Resolution
import WebServer.Proofs.Target.Path

/-!
# WebServer.Proofs.Route.Guard

Which requests pass an interceptor that is registered on `/*`. That pattern matches every path
that starts with a slash, and the empty one. A request has such a path unless its target is an
asterisk alone (`Request.isPath_of_parse`), and of the patterns that can be registered only `/`
matches an asterisk (`Pattern.isMatch_asterisk_iff`). So a request for an asterisk can reach a
handler that is mapped by `/`, past the interceptor.

Main statement: `resolve_guarded_iff`.
-/

namespace WebServer

/-! ## The paths of requests -/

namespace Request

variable {buf : Bytes} {limits : Limits}

namespace Head

variable {h : Head} {start : Nat}

theorem isPath_of_parseLine {line : List Char} {m : Method} {path : String}
    {query : Option String} {version : String}
    (h : parseLine line = .ok (m, path, query, version)) : Target.IsPath path := by
  unfold parseLine at h
  split at h
  · split at h
    · contradiction
    · split at h
      · split at h
        · contradiction
        · next path' query' ht =>
            obtain ⟨_, rfl, _⟩ : _ ∧ path' = path ∧ _ := by simpa using h
            exact .of_parse? ht
      · contradiction
  · contradiction

theorem isPath_of_parseText {text : List Char} (hp : parseText text = .ok h) :
    Target.IsPath h.path := by
  unfold parseText at hp
  split at hp
  · contradiction
  · split at hp
    · contradiction
    · next m path query version hl =>
        split at hp
        · contradiction
        · obtain rfl := Except.ok.inj hp
          exact isPath_of_parseLine hl

theorem isPath_of_parse (hp : parse buf limits = .ok (h, start)) : Target.IsPath h.path := by
  rw [parse_of_findEnd_some (findEnd_of_parse hp).1] at hp
  split at hp
  · contradiction
  · split at hp
    · contradiction
    · next text _ =>
        cases hx : parseText text.toList with
        | error e => simp [hx, Except.map] at hp
        | ok h' =>
            obtain ⟨rfl, _⟩ : h' = h ∧ _ := by simpa [hx, Except.map] using hp
            exact isPath_of_parseText hx

end Head

theorem isPath_of_parse {q : Request} {n : Nat} (h : parse buf limits = .ok (q, n)) :
    Target.IsPath q.path := by
  obtain ⟨head, _, _, _, _, hhead, _, _, hbody, _⟩ := stages_of_parse h
  obtain ⟨_, rfl⟩ := Head.exists_of_withBody hbody
  exact Head.isPath_of_parse hhead

end Request

namespace Route

/-! ## What patterns match -/

namespace Pattern

variable {text path : String} {p : Pattern}

/-- Of the patterns that can be read only the fallback matches an asterisk. -/
theorem isMatch_asterisk_iff (h : parse text = .ok p) : p.isMatch "*" = true ↔ p = .fallback := by
  obtain ⟨-, hp⟩ := of_parse h
  cases p with
  | exact path =>
      have hne : "*" ≠ path := by
        rintro rfl
        simp [WellFormed] at hp
      simpa only [isMatch, beq_iff_eq, reduceCtorEq, iff_false] using hne
  | under d =>
      have hout : ¬ isUnder d "*" = true := by
        rw [isUnder_iff]
        rintro ⟨rest, hrest, hend⟩
        cases hcs : d.toList with
        | nil =>
            obtain rfl : ['*'] = rest := by simpa [hcs] using hrest
            simp at hend
        | cons c cs =>
            rw [hcs] at hrest
            obtain ⟨rfl, _⟩ : '*' = c ∧ _ := by simpa using hrest
            exact hp (by simp [hcs])
      simpa [isMatch] using hout
  | ext e =>
      have hnone : extension? "*" = none := by decide
      simp [isMatch, hnone]
  | fallback => simp [isMatch]

/-- The pattern `/*` matches what starts with a slash, and the empty path. -/
theorem isMatch_root_iff :
    (under "").isMatch path = true ↔ path = "" ∨ path.toList.head? = some '/' := by
  rw [isMatch, isUnder_iff]
  simp

theorem parse_root : parse "/*" = .ok (.under "") := by decide

theorem parse_fallback : parse "/" = .ok .fallback := by decide

end Pattern

/-! ## Mappings -/

namespace Builder

variable {ε ι : Type}

/-- Whether an interceptor is put before the paths of a pattern. -/
def Guards (b : Builder ε ι) (text : String) (i : ι) : Prop :=
  ∃ p, Pattern.parse text = .ok p ∧ (p, i) ∈ b.interceptors

/-- Whether a pattern is mapped to an endpoint. -/
def Maps (b : Builder ε ι) (text : String) (e : ε) : Prop :=
  ∃ p, Pattern.parse text = .ok p ∧ (p, e) ∈ b.endpoints

/-- Whether all patterns have been read from texts. -/
structure IsRead (b : Builder ε ι) : Prop where
  endpoints : ∀ m ∈ b.endpoints, ∃ text, Pattern.parse text = .ok m.1
  interceptors : ∀ m ∈ b.interceptors, ∃ text, Pattern.parse text = .ok m.1

end Builder

end Route

namespace Registration

open Route

variable {b : RoutesBuilder} {r : Registration} {rs : List Registration} {i : Interceptor}
  {ts : List String} {t : String}

theorem isRead_addAll (hd : b.Distinct) (hb : b.IsRead) (rs : List Registration) :
    (addAll b rs).2.IsRead := by
  constructor
  · intro m hm
    rcases List.mem_append.1 ((endpoints_addAll_sublist hd rs).mem hm) with hold | hnew
    · exact hb.endpoints m hold
    · obtain ⟨r, _, hmr⟩ := List.mem_flatMap.1 hnew
      exact parse_of_mem_mappings hmr
  · intro m hm
    rw [interceptors_addAll hd] at hm
    rcases List.mem_append.1 hm with hold | hnew
    · exact hb.interceptors m hold
    · obtain ⟨r, _, hmr⟩ := List.mem_flatMap.1 hnew
      exact parse_of_mem_guards hmr

/-- A registration whose texts are patterns puts its interceptor before the paths of each. -/
theorem guards_addAll (hd : b.Distinct) (hmem : .interceptor ts i ∈ rs)
    (hread : IsReadable (.interceptor ts i)) (ht : t ∈ ts) : (addAll b rs).2.Guards t i := by
  obtain ⟨ps, hps⟩ := hread
  rw [texts] at hps
  obtain ⟨p, hp, hparse⟩ := (Builder.of_parseAll hps).1 t ht
  refine ⟨p, hparse, ?_⟩
  rw [interceptors_addAll hd]
  refine List.mem_append_right _ (List.mem_flatMap.2 ⟨_, hmem, ?_⟩)
  rw [guards, patterns, texts, hps]
  exact List.mem_map.2 ⟨p, hp, rfl⟩

end Registration

namespace Route

/-- What is left of a path that starts with a slash does so too, and below a context path of
any length every path leaves such a rest. -/
theorem Rest.isMatch_root {context path rest : String} (h : Rest context path rest)
    (hpath : Target.IsPath path) (hne : context ≠ "" ∨ path ≠ "*") :
    (Pattern.under "").isMatch rest = true := by
  rw [Pattern.isMatch_root_iff]
  unfold Rest at h
  split at h
  · next hcontext =>
      subst h
      exact hpath.resolve_left (hne.resolve_left (not_not_intro hcontext))
  · rcases h with ⟨_, rfl⟩ | ⟨_, hhead⟩
    · exact .inr rfl
    · exact .inr hhead

namespace Router

variable {ε ι : Type} {b : Builder ε ι} {i : ι} {e : ε} {path rest : String} {m : Resolved ε ι}

theorem mem_interceptorsFor_iff :
    i ∈ (ofBuilder b).interceptorsFor rest ↔
      ∃ p, (p, i) ∈ b.interceptors ∧ p.isMatch rest = true := by
  simp [interceptorsFor, ofBuilder]

/-- Before an asterisk stand the interceptors of the pattern `/`. -/
theorem mem_interceptorsFor_asterisk_iff (hb : b.IsRead) :
    i ∈ (ofBuilder b).interceptorsFor "*" ↔ b.Guards "/" i := by
  rw [mem_interceptorsFor_iff]
  constructor
  · rintro ⟨p, hp, hmatch⟩
    obtain ⟨text, htext⟩ := hb.interceptors _ hp
    obtain rfl := (Pattern.isMatch_asterisk_iff htext).1 hmatch
    exact ⟨_, Pattern.parse_fallback, hp⟩
  · rintro ⟨p, hp, hmem⟩
    obtain rfl := Except.ok.inj (hp.symm.trans Pattern.parse_fallback)
    exact ⟨_, hmem, rfl⟩

/-- An asterisk leads to the endpoint that is mapped by the pattern `/`. -/
theorem resolve_asterisk_iff (hd : b.Distinct) (hb : b.IsRead)
    (hcontext : (ofBuilder b).contextPath = "") :
    (∃ m, (ofBuilder b).resolve "*" = some m ∧ m.endpoint = e) ↔ b.Maps "/" e := by
  have hstrip : (ofBuilder b).strip? "*" = some "*" := by
    rw [strip?_eq_some_iff, Rest, if_pos hcontext]
  rw [resolve_of_strip? hstrip]
  constructor
  · rintro ⟨m, hm, rfl⟩
    obtain ⟨⟨p, e⟩, hfound, rfl⟩ := Option.map_eq_some_iff.1 hm
    have hbest := (endpoint?_eq_some_iff hd).1 hfound
    obtain ⟨text, htext⟩ := hb.endpoints _ hbest.mem
    obtain rfl := (Pattern.isMatch_asterisk_iff htext).1 hbest.isMatch
    exact ⟨_, Pattern.parse_fallback, hbest.mem⟩
  · rintro ⟨p, hp, hmem⟩
    obtain rfl := Except.ok.inj (hp.symm.trans Pattern.parse_fallback)
    have hbest : Best b.endpoints "*" .fallback e := by
      refine ⟨hmem, rfl, fun m hm hmatch => ?_⟩
      obtain ⟨text, htext⟩ := hb.endpoints _ hm
      rw [(Pattern.isMatch_asterisk_iff htext).1 hmatch]
      rfl
    rw [(endpoint?_eq_some_iff hd).2 hbest]
    exact ⟨_, rfl, rfl⟩

/-- An interceptor on `/*` stands before every path, but for an asterisk. -/
theorem mem_interceptors_iff (hb : b.IsRead) (hall : b.Guards "/*" i)
    (hpath : Target.IsPath path) (h : (ofBuilder b).resolve path = some m) :
    i ∈ m.interceptors ↔ (ofBuilder b).contextPath ≠ "" ∨ path ≠ "*" ∨ b.Guards "/" i := by
  obtain ⟨rest, hrest⟩ : ∃ rest, (ofBuilder b).strip? path = some rest := by
    cases hrest : (ofBuilder b).strip? path with
    | none =>
        rw [resolve_of_strip?_eq_none hrest] at h
        contradiction
    | some rest => exact ⟨rest, rfl⟩
  rw [resolve_of_strip? hrest] at h
  obtain ⟨found, _, rfl⟩ := Option.map_eq_some_iff.1 h
  rw [strip?_eq_some_iff] at hrest
  rw [← or_assoc]
  by_cases hne : (ofBuilder b).contextPath ≠ "" ∨ path ≠ "*"
  · obtain ⟨p, hp, hmem⟩ := hall
    obtain rfl := Except.ok.inj (hp.symm.trans Pattern.parse_root)
    simp only [hne, true_or, iff_true]
    exact mem_interceptorsFor_iff.2 ⟨_, hmem, hrest.isMatch_root hpath hne⟩
  · obtain ⟨hcontext, rfl⟩ : (ofBuilder b).contextPath = "" ∧ path = "*" := by
      simpa only [not_or, not_not] using hne
    rw [Rest, if_pos hcontext] at hrest
    subst hrest
    rw [or_iff_right hne]
    exact mem_interceptorsFor_asterisk_iff hb

/-! ## Requests -/

open Registration (addAll IsReadable)

/-- **Which requests an interceptor on `/*` stands before**, for all registrations, with any
context path, and every accepted request that leads somewhere: those that are not for an
asterisk, and all of them below a context path or if the interceptor is on `/` as well. So the
interceptor stands before all HTTP endpoints exactly when one of this holds, or `/` is mapped to
no HTTP endpoint. -/
theorem resolve_guarded_iff (context : String) (regs : List Registration) {ts : List String}
    {i : Interceptor} (hmem : .interceptor ts i ∈ regs)
    (hread : IsReadable (.interceptor ts i)) (hall : "/*" ∈ ts) :
    let b := (addAll { contextPath := context } regs).2
    let r := ofBuilder b
    (∀ buf limits q n m, Request.parse buf limits = .ok (q, n) → r.resolve q.path = some m →
      (i ∈ m.interceptors ↔ r.contextPath ≠ "" ∨ q.path ≠ "*" ∨ b.Guards "/" i)) ∧
    ((∀ buf q n m h, Request.parse buf {} = .ok (q, n) → r.resolve q.path = some m →
        m.endpoint = .http h → i ∈ m.interceptors) ↔
      r.contextPath ≠ "" ∨ b.Guards "/" i ∨ ∀ h, ¬ b.Maps "/" (.http h)) := by
  intro b r
  have hstart : ({ contextPath := context } : RoutesBuilder).Distinct := List.nodup_nil
  have hd : b.Distinct := Registration.distinct_addAll hstart regs
  have hb : b.IsRead := Registration.isRead_addAll hstart ⟨by simp, by simp⟩ regs
  have hguard : b.Guards "/*" i := Registration.guards_addAll hstart hmem hread hall
  have hpoint : ∀ buf limits q n m, Request.parse buf limits = .ok (q, n) →
      r.resolve q.path = some m →
      (i ∈ m.interceptors ↔ r.contextPath ≠ "" ∨ q.path ≠ "*" ∨ b.Guards "/" i) :=
    fun _ _ _ _ _ hq hm => mem_interceptors_iff hb hguard (Request.isPath_of_parse hq) hm
  refine ⟨hpoint, ?_⟩
  constructor
  · intro hpass
    by_contra hnot
    obtain ⟨hcontext, hfree, h, hmaps⟩ :
        r.contextPath = "" ∧ ¬ b.Guards "/" i ∧ ∃ h, b.Maps "/" (.http h) := by
      simpa only [not_or, not_not, not_forall] using hnot
    -- the request that slips through
    obtain ⟨q, n, hq, hpath⟩ :
        ∃ q n, Request.parse (utf8 "GET * HTTP/1.1\r\n\r\n") {} = .ok (q, n) ∧ q.path = "*" :=
      ⟨{ method := .get, path := "*" }, 18, by decide +kernel, rfl⟩
    obtain ⟨m, hm, hend⟩ := (resolve_asterisk_iff hd hb hcontext).2 hmaps
    rw [← hpath] at hm
    have hin := (hpoint _ _ q n m hq hm).1 (hpass _ q n m h hq hm hend)
    simp [hcontext, hpath, hfree] at hin
  · intro hsafe buf q n m h hq hm hend
    refine (hpoint buf {} q n m hq hm).2 ?_
    rcases hsafe with hcontext | hfree | hnone
    · exact .inl hcontext
    · exact .inr (.inr hfree)
    · by_cases hcontext : r.contextPath = ""
      · refine .inr (.inl fun hpath => ?_)
        rw [hpath] at hm
        exact hnone h ((resolve_asterisk_iff hd hb hcontext).1 ⟨m, hm, hend⟩)
      · exact .inl hcontext

/-- An interceptor that turns everybody away. -/
def guard : Interceptor :=
  { name := "guard", before := fun q => (q, some .failed), after := fun q _ => (q, .failed) }

/-- A request for an asterisk gets to the page on `/` past the guard on `/*`; no request gets
past a guard on both. -/
theorem resolve_guarded_iff_of_asterisk :
    let front : Registration := .endpoint ["/"] (.http page)
    let r := ofBuilder (addAll {} [.interceptor ["/*"] guard, front]).2
    let r' := ofBuilder (addAll {} [.interceptor ["/*", "/"] guard, front]).2
    (∃ q n m, Request.parse (utf8 "GET * HTTP/1.1\r\n\r\n") {} = .ok (q, n) ∧
      r.resolve q.path = some m ∧ m.endpoint = .http page ∧ guard ∉ m.interceptors) ∧
    ∀ buf q n m h, Request.parse buf {} = .ok (q, n) → r'.resolve q.path = some m →
      m.endpoint = .http h → guard ∈ m.interceptors := by
  intro front r r'
  have hstart : ({} : RoutesBuilder).Distinct := List.nodup_nil
  constructor
  · let regs : List Registration := [.interceptor ["/*"] guard, front]
    have hread : IsReadable (.interceptor ["/*"] guard) := ⟨[.under ""], by decide⟩
    obtain ⟨hpoint, _⟩ := resolve_guarded_iff "" regs List.mem_cons_self hread List.mem_cons_self
    have hq : Request.parse (utf8 "GET * HTTP/1.1\r\n\r\n") {} =
        .ok ({ method := .get, path := "*" }, 18) := by decide +kernel
    have hcontext : r.contextPath = "" := by decide
    obtain ⟨m, hm, hend⟩ := (resolve_asterisk_iff (Registration.distinct_addAll hstart regs)
      (Registration.isRead_addAll hstart ⟨by simp, by simp⟩ regs) hcontext).2
      ⟨.fallback, Pattern.parse_fallback, List.mem_singleton_self _⟩
    refine ⟨_, _, m, hq, hm, hend, fun hin => ?_⟩
    rcases (hpoint _ _ _ _ m hq hm).1 hin with hne | hne | ⟨p, hp, hmem⟩
    · exact hne hcontext
    · exact hne rfl
    · -- the only pattern of the guard is `/*`
      obtain rfl := Except.ok.inj (hp.symm.trans Pattern.parse_fallback)
      have honly : (addAll {} regs).2.interceptors = [(.under "", guard)] := rfl
      rw [honly, List.mem_singleton] at hmem
      simp at hmem
  · let regs : List Registration := [.interceptor ["/*", "/"] guard, front]
    have hread : IsReadable (.interceptor ["/*", "/"] guard) :=
      ⟨[.under "", .fallback], by decide⟩
    obtain ⟨_, hiff⟩ := resolve_guarded_iff "" regs List.mem_cons_self hread List.mem_cons_self
    refine hiff.2 (.inr (.inl ?_))
    exact Registration.guards_addAll hstart List.mem_cons_self hread (by decide)

end Router

end Route

end WebServer
