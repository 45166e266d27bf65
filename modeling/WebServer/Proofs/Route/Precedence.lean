import Mathlib.Data.List.Nodup
import WebServer.Route.Router

/-!
# WebServer.Proofs.Route.Precedence

Which mapping answers a path. Patterns are ranked (`Pattern.outranks`), and of the mappings
whose pattern matches a path the best is the one that no other outranks (`Best`). A router
looks the path up in four tables instead, one for each kind of pattern.

Main statement: the lookup finds the best mapping, and there is only one
(`Router.endpoint?_eq_some_iff`).
-/

namespace WebServer

namespace Route

namespace Pattern

/-! ## What patterns match -/

theorem after?_eq_some_iff {front cs rest : List Char} :
    after? front cs = some rest ↔ cs = front ++ rest := by
  induction front generalizing cs with
  | nil => simp [after?]
  | cons p ps ih =>
      cases cs with
      | nil => simp [after?]
      | cons c cs =>
          unfold after?
          split
          · next h =>
              subst h
              simp [ih]
          · next h => simp [Ne.symm h]

/-- A path lies in a directory if it is the directory, or goes on with a slash behind it. -/
theorem isUnder_iff {directory path : String} :
    isUnder directory path = true ↔
      ∃ rest, path.toList = directory.toList ++ rest ∧
        (rest = [] ∨ rest.head? = some '/') := by
  unfold isUnder
  split
  · next rest h =>
      rw [after?_eq_some_iff] at h
      rw [h]
      simp [List.append_cancel_left_eq]
  · next h =>
      constructor
      · exact fun hf => absurd hf Bool.false_ne_true
      · rintro ⟨rest, hrest, _⟩
        rw [after?_eq_some_iff.2 hrest] at h
        contradiction

/-- Of the directories of one path those of the same length are the same. -/
theorem eq_of_isUnder {d d' path : String} (h : isUnder d path = true)
    (h' : isUnder d' path = true) (hsize : d.utf8ByteSize = d'.utf8ByteSize) : d = d' := by
  obtain ⟨rest, hrest, _⟩ := isUnder_iff.1 h
  obtain ⟨rest', hrest', _⟩ := isUnder_iff.1 h'
  have hsame : ∀ {a b : String}, a.toList <+: b.toList → a.utf8ByteSize = b.utf8ByteSize →
      a = b := by
    rintro a b ⟨x, hx⟩ hab
    have hb : b = a ++ String.ofList x := by
      apply String.toList_injective
      rw [String.toList_append, String.toList_ofList, hx]
    rw [hb, String.utf8ByteSize_append] at hab
    have hzero : String.ofList x = "" := String.utf8ByteSize_eq_zero_iff.1 (by omega)
    rw [hb, hzero, String.append_empty]
  have hd : d.toList <+: path.toList := ⟨rest, hrest.symm⟩
  have hd' : d'.toList <+: path.toList := ⟨rest', hrest'.symm⟩
  rcases List.prefix_or_prefix_of_prefix hd hd' with hp | hp
  · exact hsame hp hsize
  · exact (hsame hp hsize.symm).symm

/-! ## Ranks -/

/-- Whether a pattern ranks above another: an exact pattern above directories, a directory
above shorter ones and above extensions, and an extension above the fallback. -/
def outranks : Pattern → Pattern → Bool
  | .exact _, .exact _ => false
  | .exact _, _ => true
  | .under _, .exact _ => false
  | .under d, .under d' => d'.utf8ByteSize < d.utf8ByteSize
  | .under _, _ => true
  | .ext _, .fallback => true
  | .ext _, _ => false
  | .fallback, _ => false

/-- Of two patterns that match a path one outranks the other, unless they are the same. -/
theorem eq_of_isMatch {p p' : Pattern} {path : String} (h : p.isMatch path = true)
    (h' : p'.isMatch path = true) (hp : p.outranks p' = false) (hp' : p'.outranks p = false) :
    p = p' := by
  cases p <;> cases p' <;>
    first
    | contradiction
    | simp_all [isMatch]
  next d d' =>
    simp only [outranks, decide_eq_false_iff_not] at hp hp'
    exact eq_of_isUnder h h' (by omega)

end Pattern

variable {ε ι : Type} {es es' : List (Pattern × ε)} {path : String} {p p' : Pattern} {e e' : ε}

/-- A mapping whose pattern matches the path, and that no other such mapping outranks. -/
structure Best (es : List (Pattern × ε)) (path : String) (p : Pattern) (e : ε) : Prop where
  mem : (p, e) ∈ es
  isMatch : p.isMatch path = true
  top : ∀ m ∈ es, m.1.isMatch path = true → m.1.outranks p = false

/-- When no pattern is mapped twice there is at most one best mapping. -/
theorem Best.unique (hes : (es.map (·.1)).Nodup) (h : Best es path p e)
    (h' : Best es path p' e') : p = p' ∧ e = e' := by
  obtain rfl : p = p' :=
    Pattern.eq_of_isMatch h.isMatch h'.isMatch (h'.top _ h.mem h.isMatch)
      (h.top _ h'.mem h'.isMatch)
  exact ⟨rfl, (Prod.mk.inj (List.inj_on_of_nodup_map hes h.mem h'.mem rfl)).2⟩

/-- The best mapping does not depend on the order of the mappings. -/
theorem Best.perm (h : Best es path p e) (hp : es.Perm es') : Best es' path p e :=
  ⟨hp.mem_iff.1 h.mem, h.isMatch, fun m hm => h.top m (hp.mem_iff.2 hm)⟩

namespace Router

variable {b b' : Builder ε ι}

/-! ## The tables -/

theorem mem_exact {x : String} : (x, e) ∈ (ofBuilder b).exact ↔ (.exact x, e) ∈ b.endpoints := by
  simp only [ofBuilder, List.mem_filterMap]
  constructor
  · rintro ⟨⟨p, e'⟩, hm, h⟩
    cases p <;> simp_all
  · exact fun h => ⟨_, h, rfl⟩

theorem mem_extensions {x : String} :
    (x, e) ∈ (ofBuilder b).extensions ↔ (.ext x, e) ∈ b.endpoints := by
  simp only [ofBuilder, List.mem_filterMap]
  constructor
  · rintro ⟨⟨p, e'⟩, hm, h⟩
    cases p <;> simp_all
  · exact fun h => ⟨_, h, rfl⟩

theorem mem_directories {d : String} :
    (d, e) ∈ (ofBuilder b).directories ↔ (.under d, e) ∈ b.endpoints := by
  simp only [ofBuilder, List.mem_mergeSort, List.mem_filterMap]
  constructor
  · rintro ⟨⟨p, e'⟩, hm, h⟩
    cases p <;> simp_all
  · exact fun h => ⟨_, h, rfl⟩

theorem mem_of_fallback (h : (ofBuilder b).fallback = some e) : (.fallback, e) ∈ b.endpoints := by
  obtain ⟨⟨p, e'⟩, hm, h⟩ := List.exists_of_findSome?_eq_some h
  cases p <;> simp_all

theorem not_mem_of_fallback (h : (ofBuilder b).fallback = none) : (.fallback, e) ∉ b.endpoints :=
  fun hm => by simpa using List.findSome?_eq_none_iff.1 h _ hm

/-- The directories stand in the order of their lengths, the longest first. -/
theorem pairwise_directories (b : Builder ε ι) :
    (ofBuilder b).directories.Pairwise fun x y => y.1.utf8ByteSize ≤ x.1.utf8ByteSize := by
  refine (List.pairwise_mergeSort ?_ ?_ _).imp fun h => of_decide_eq_true h
  · intro x y z hxy hyz
    exact decide_eq_true (Nat.le_trans (of_decide_eq_true hyz) (of_decide_eq_true hxy))
  · intro x y
    rcases Nat.le_total y.1.utf8ByteSize x.1.utf8ByteSize with h | h <;> simp [h]

/-- The first directory of a path among those of a router is the longest. -/
theorem le_of_find?_directories {d d' : String}
    (h : (ofBuilder b).directories.find? (fun m => Pattern.isUnder m.1 path) = some (d, e))
    (hd' : (d', e') ∈ (ofBuilder b).directories) (h' : Pattern.isUnder d' path = true) :
    d'.utf8ByteSize ≤ d.utf8ByteSize := by
  obtain ⟨_, before, behind, hsplit, hbefore⟩ := List.find?_eq_some_iff_append.1 h
  have hsorted := pairwise_directories b
  rw [hsplit] at hsorted hd'
  rcases List.mem_append.1 hd' with hm | hm
  · have hno := hbefore _ hm
    simp [h'] at hno
  · rcases List.mem_cons.1 hm with hm | hm
    · exact Nat.le_of_eq (congrArg (·.1.utf8ByteSize) hm)
    · exact (List.pairwise_cons.1 (List.pairwise_append.1 hsorted).2.1).1 _ hm

/-! ## The lookup -/

theorem isMatch_exact_of_find?_eq_none (h : (ofBuilder b).exact.find? (·.1 == path) = none)
    {x : String} (hm : (.exact x, e) ∈ b.endpoints) : (Pattern.exact x).isMatch path = false := by
  rw [Pattern.isMatch, beq_eq_false_iff_ne]
  rintro rfl
  simpa using List.find?_eq_none.1 h _ (mem_exact.2 hm)

theorem isMatch_under_of_find?_eq_none
    (h : (ofBuilder b).directories.find? (fun m => Pattern.isUnder m.1 path) = none) {d : String}
    (hm : (.under d, e) ∈ b.endpoints) : (Pattern.under d).isMatch path = false := by
  rw [Pattern.isMatch]
  simpa using List.find?_eq_none.1 h _ (mem_directories.2 hm)

theorem isMatch_ext_of_find?_eq_none
    (h : ((Pattern.extension? path).bind fun x => (ofBuilder b).extensions.find? (·.1 == x)) =
      none) {x : String} (hm : (.ext x, e) ∈ b.endpoints) :
    (Pattern.ext x).isMatch path = false := by
  rw [Pattern.isMatch, beq_eq_false_iff_ne]
  intro hx
  rw [hx, Option.bind_some] at h
  simpa using List.find?_eq_none.1 h _ (mem_extensions.2 hm)

/-- What is found in the tables is a best mapping. -/
theorem best_of_endpoint? (h : (ofBuilder b).endpoint? path = some (p, e)) :
    Best b.endpoints path p e := by
  unfold endpoint? at h
  split at h
  · next x e' hx =>
      obtain ⟨rfl, rfl⟩ : Pattern.exact x = p ∧ e' = e := by simpa using h
      have hkey : x = path := by simpa using List.find?_some hx
      subst hkey
      refine ⟨mem_exact.1 (List.mem_of_find?_eq_some hx), by simp [Pattern.isMatch], ?_⟩
      rintro ⟨_ | _ | _ | _, e''⟩ _ _ <;> rfl
  · next hexact =>
      split at h
      · next d e' hd =>
          obtain ⟨rfl, rfl⟩ : Pattern.under d = p ∧ e' = e := by simpa using h
          have hunder : Pattern.isUnder d path = true := by simpa using List.find?_some hd
          refine ⟨mem_directories.1 (List.mem_of_find?_eq_some hd), hunder, ?_⟩
          rintro ⟨x | d' | _ | _, e''⟩ hm hmatch
          · rw [isMatch_exact_of_find?_eq_none hexact hm] at hmatch
            contradiction
          · have hle := le_of_find?_directories hd (mem_directories.2 hm) hmatch
            simpa [Pattern.outranks] using hle
          · rfl
          · rfl
      · next hdirs =>
          split at h
          · next x e' hx =>
              obtain ⟨rfl, rfl⟩ : Pattern.ext x = p ∧ e' = e := by simpa using h
              obtain ⟨y, hy, hfind⟩ := Option.bind_eq_some_iff.1 hx
              have hkey : x = y := by simpa using List.find?_some hfind
              subst hkey
              refine ⟨mem_extensions.1 (List.mem_of_find?_eq_some hfind), ?_, ?_⟩
              · simp [Pattern.isMatch, hy]
              · rintro ⟨x | d' | _ | _, e''⟩ hm hmatch
                · rw [isMatch_exact_of_find?_eq_none hexact hm] at hmatch
                  contradiction
                · rw [isMatch_under_of_find?_eq_none hdirs hm] at hmatch
                  contradiction
                · rfl
                · rfl
          · next hexts =>
              obtain ⟨e', hf, heq⟩ := Option.map_eq_some_iff.1 h
              obtain ⟨rfl, rfl⟩ : Pattern.fallback = p ∧ e' = e := by simpa using heq
              refine ⟨mem_of_fallback hf, rfl, ?_⟩
              rintro ⟨x | d' | y | _, e''⟩ hm hmatch
              · rw [isMatch_exact_of_find?_eq_none hexact hm] at hmatch
                contradiction
              · rw [isMatch_under_of_find?_eq_none hdirs hm] at hmatch
                contradiction
              · rw [isMatch_ext_of_find?_eq_none hexts hm] at hmatch
                contradiction
              · rfl

/-- When nothing is found in the tables no mapped pattern matches. -/
theorem isMatch_of_endpoint?_eq_none (h : (ofBuilder b).endpoint? path = none) :
    ∀ m ∈ b.endpoints, m.1.isMatch path = false := by
  unfold endpoint? at h
  split at h
  · contradiction
  · next hexact =>
      split at h
      · contradiction
      · next hdirs =>
          split at h
          · contradiction
          · next hexts =>
              have hfallback := Option.map_eq_none_iff.1 h
              rintro ⟨x | d | y | _, e⟩ hm
              · exact isMatch_exact_of_find?_eq_none hexact hm
              · exact isMatch_under_of_find?_eq_none hdirs hm
              · exact isMatch_ext_of_find?_eq_none hexts hm
              · exact absurd hm (not_mem_of_fallback hfallback)

/-- **The lookup finds the best mapping.** -/
theorem endpoint?_eq_some_iff (hb : (b.endpoints.map (·.1)).Nodup) :
    (ofBuilder b).endpoint? path = some (p, e) ↔ Best b.endpoints path p e := by
  refine ⟨best_of_endpoint?, fun h => ?_⟩
  cases hfound : (ofBuilder b).endpoint? path with
  | none =>
      have hno := isMatch_of_endpoint?_eq_none hfound _ h.mem
      rw [h.isMatch] at hno
      contradiction
  | some m =>
      obtain ⟨rfl, rfl⟩ := (best_of_endpoint? hfound).unique hb h
      rfl

/-- Nothing is found exactly when no mapped pattern matches. -/
theorem endpoint?_eq_none_iff :
    (ofBuilder b).endpoint? path = none ↔ ∀ m ∈ b.endpoints, m.1.isMatch path = false := by
  refine ⟨isMatch_of_endpoint?_eq_none, fun h => ?_⟩
  cases hfound : (ofBuilder b).endpoint? path with
  | none => rfl
  | some m =>
      have hbest := best_of_endpoint? hfound
      have hno := h _ hbest.mem
      rw [hbest.isMatch] at hno
      contradiction

/-- The lookup does not depend on the order of the mappings. -/
theorem endpoint?_perm (hb : (b.endpoints.map (·.1)).Nodup)
    (hp : b.endpoints.Perm b'.endpoints) (path : String) :
    (ofBuilder b').endpoint? path = (ofBuilder b).endpoint? path := by
  cases hfound : (ofBuilder b).endpoint? path with
  | none =>
      exact endpoint?_eq_none_iff.2 fun m hm =>
        endpoint?_eq_none_iff.1 hfound m (hp.mem_iff.2 hm)
  | some m =>
      have hb' : (b'.endpoints.map (·.1)).Nodup := (hp.map _).nodup_iff.1 hb
      exact (endpoint?_eq_some_iff hb').2 ((best_of_endpoint? hfound).perm hp)

end Router

end Route

end WebServer
