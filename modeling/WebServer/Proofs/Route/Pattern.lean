import WebServer.Proofs.Route.Precedence
import WebServer.Proofs.Text.Line

/-!
# WebServer.Proofs.Route.Pattern

Patterns as texts, and what extensions match. A pattern is shown as the text it was read from, less
the white space around it (`Pattern.of_parse`), so texts are read alike exactly when they are
the same without it. An extension is compared with what stands behind the last dot of a path, so
one with a dot in it matches nothing, although it can be registered.

Main statements: `Pattern.parse_eq_iff`, `Pattern.parse_text` and `Pattern.isMatch_ext_iff_named`.
-/

namespace WebServer

/-! ## The last separator -/

/-- The cut at the last separator: none stands behind it. -/
theorem splitOnceLast_eq_some_iff {sep : Char} {cs a b : List Char} :
    splitOnceLast sep cs = some (a, b) ↔ cs = a ++ sep :: b ∧ sep ∉ b := by
  have hmap : splitOnceLast sep cs = some (a, b) ↔
      splitOnce sep cs.reverse = some (b.reverse, a.reverse) := by
    unfold splitOnceLast
    cases splitOnce sep cs.reverse with
    | none => simp
    | some ab => simp [Prod.ext_iff, and_comm, List.reverse_eq_iff]
  rw [hmap, splitOnce_eq_some_iff, List.reverse_eq_iff]
  simp

theorem splitOnceLast_eq_none_iff {sep : Char} {cs : List Char} :
    splitOnceLast sep cs = none ↔ sep ∉ cs := by
  simp [splitOnceLast, splitOnce_eq_none_iff]

namespace Route

namespace Pattern

variable {text text' path : String} {p p' : Pattern} {e : String}

/-! ## Patterns as texts -/

/-- White space around a text does not matter. -/
theorem parse_trimText (text : String) : parse (trimText text) = parse text := by
  simp [parse, trimText, trim_trim]

theorem eq_of_directory? {cs d : List Char} (h : directory? cs = some d) :
    cs = d ++ ['/', '*'] := by
  unfold directory? at h
  split at h
  · next rest hrest =>
      obtain rfl := Option.some.inj h
      rw [List.reverse_eq_iff] at hrest
      simp [hrest]
  · contradiction

/-- What the patterns that can be read are like. -/
def WellFormed : Pattern → Prop
  | .exact path => path.toList.head? = some '/'
  | .under d => '*' ∉ d.toList
  | .ext e => e ≠ "" ∧ '/' ∉ e.toList
  | .fallback => True

/-- A text is read as a well-formed pattern, which is shown as the text without the white space
around it. -/
theorem of_parse (h : parse text = .ok p) : p.text = trimText text ∧ p.WellFormed := by
  unfold parse at h
  rw [← String.toList_inj, trimText, String.toList_ofList]
  dsimp only at h
  split at h
  · contradiction
  · next e hcs =>
      split at h
      · contradiction
      · next he =>
          obtain rfl := Except.ok.inj h
          constructor
          · simp [Pattern.text, hcs]
          · simpa [WellFormed, ← String.toList_eq_nil_iff] using he
  · next hcs =>
      obtain rfl := Except.ok.inj h
      simp [Pattern.text, hcs, WellFormed]
  · next cs _ hcs =>
      split at h
      · next d hd =>
          split at h
          · contradiction
          · next hstar =>
              obtain rfl := Except.ok.inj h
              constructor
              · simp [Pattern.text, eq_of_directory? hd]
              · simpa [WellFormed] using hstar
      · split at h
        · contradiction
        · obtain rfl := Except.ok.inj h
          simp [Pattern.text, WellFormed, hcs]
  · contradiction

/-- The text that a pattern is shown as is read as this pattern. -/
theorem parse_text (h : parse text = .ok p) : parse p.text = .ok p := by
  rw [(of_parse h).1, parse_trimText, h]

/-- Two texts are read as the same pattern when they differ in the white space around them, and
only then. -/
theorem parse_eq_iff (h : parse text = .ok p) (h' : parse text' = .ok p') :
    p = p' ↔ trimText text = trimText text' := by
  constructor
  · intro heq
    rw [← (of_parse h).1, ← (of_parse h').1, heq]
  · intro heq
    rw [← parse_trimText, heq, parse_trimText, h'] at h
    exact (Except.ok.inj h).symm

/-! ## Extensions -/

theorem lastSegment_of_not_mem {cs : List Char} (h : '/' ∉ cs) : lastSegment cs = cs := by
  rw [lastSegment, List.takeWhile_eq_self_iff.2, List.reverse_reverse]
  intro c hc
  have hne : c ≠ '/' := by
    rintro rfl
    exact h (List.mem_reverse.1 hc)
  simpa using hne

theorem lastSegment_append {segment : List Char} (h : '/' ∉ segment) (front : List Char) :
    lastSegment (front ++ '/' :: segment) = segment := by
  have hall : segment.reverse.takeWhile (· ≠ '/') = segment.reverse := by
    rw [← List.reverse_inj, List.reverse_reverse]
    exact lastSegment_of_not_mem h
  simp only [lastSegment, List.reverse_append, List.reverse_cons, List.append_assoc,
    List.takeWhile_append, hall, List.length_reverse]
  simp

/-- The last segment of a path is the last of the pieces between its slashes. -/
theorem getLast?_splitOn (cs : List Char) : (cs.splitOn '/').getLast? = some (lastSegment cs) := by
  cases hcut : splitOnceLast '/' cs with
  | none =>
      rw [splitOnceLast_eq_none_iff] at hcut
      rw [List.splitOn_eq_singleton hcut, lastSegment_of_not_mem hcut, List.getLast?_singleton]
  | some ab =>
      obtain ⟨rfl, hsegment⟩ := splitOnceLast_eq_some_iff.1 hcut
      have hpieces : (ab.1 ++ '/' :: ab.2).splitOn '/' = ab.1.splitOn '/' ++ ab.2.splitOn '/' := by
        simp only [List.splitOn_eq_splitOnP]
        exact List.splitOnP_append_cons _ _ (by simp)
      rw [lastSegment_append hsegment, hpieces, List.splitOn_eq_singleton hsegment,
        List.getLast?_concat]

/-- The paths that an extension names: those whose last segment ends with a dot and the
extension. -/
def Names (e path : String) : Prop :=
  ∃ segment ∈ (path.toList.splitOn '/').getLast?, '.' :: e.toList <:+ segment

theorem names_iff : Names e path ↔ '.' :: e.toList <:+ lastSegment path.toList := by
  simp [Names, getLast?_splitOn]

/-- An extension names a path that ends with it. -/
theorem names_append (he : '/' ∉ e.toList) : Names e ("/x." ++ e) := by
  have hpath : ("/x." ++ e).toList = [] ++ '/' :: ('x' :: '.' :: e.toList) := by simp
  rw [names_iff, hpath, lastSegment_append (by simpa using he)]
  exact List.suffix_cons _ _

/-- What stands behind the last dot of the last segment is compared, and it holds no dot. -/
theorem isMatch_ext_iff (he : e ≠ "") :
    (ext e).isMatch path = true ↔ '.' ∉ e.toList ∧ Names e path := by
  rw [isMatch, beq_iff_eq, names_iff]
  constructor
  · intro h
    unfold extension? at h
    split at h
    · contradiction
    · contradiction
    · next stem found _ hcut =>
        obtain rfl : String.ofList found = e := by simpa using h
        obtain ⟨hsegment, hdot⟩ := splitOnceLast_eq_some_iff.1 hcut
        rw [String.toList_ofList, hsegment]
        exact ⟨hdot, List.suffix_append _ _⟩
  · rintro ⟨hdot, stem, hsegment⟩
    have hcut : splitOnceLast '.' (lastSegment path.toList) = some (stem, e.toList) :=
      splitOnceLast_eq_some_iff.2 ⟨hsegment.symm, hdot⟩
    have hne : e.toList ≠ [] := by simpa [String.toList_eq_nil_iff] using he
    unfold extension?
    rw [hcut]
    split
    · contradiction
    · next heq => simp_all
    · next heq =>
        obtain ⟨-, rfl⟩ : _ ∧ e.toList = _ := by simpa using heq
        rw [String.ofList_toList]

/-- **An extension matches what it names unless it holds a dot.** For every text that is read as an
extension: it matches a path exactly when it holds no dot and the last segment of the path ends with
a dot and the extension. So it matches what it names exactly when it holds no dot; with a dot it is
dead, and no path leads to an endpoint by it, whatever else is mapped. -/
theorem isMatch_ext_iff_named (h : parse text = .ok (.ext e)) :
    (∀ path, (ext e).isMatch path = true ↔ '.' ∉ e.toList ∧ Names e path) ∧
      ((∀ path, (ext e).isMatch path = true ↔ Names e path) ↔ '.' ∉ e.toList) ∧
      ((ext e).isMatch ("/x." ++ e) = true ↔ '.' ∉ e.toList) ∧
      ('.' ∈ e.toList → ∀ (ε ι : Type) (b : Builder ε ι) path endpoint,
        (Router.ofBuilder b).endpoint? path ≠ some (.ext e, endpoint)) := by
  obtain ⟨hne, hslash⟩ := (of_parse h).2
  have hmatch : ∀ path, (ext e).isMatch path = true ↔ '.' ∉ e.toList ∧ Names e path :=
    fun _ => isMatch_ext_iff hne
  have hshort : (ext e).isMatch ("/x." ++ e) = true ↔ '.' ∉ e.toList := by
    rw [hmatch, and_iff_left (names_append hslash)]
  refine ⟨hmatch, ?_, hshort, ?_⟩
  · constructor
    · intro hall
      exact hshort.1 ((hall _).2 (names_append hslash))
    · intro hdot path
      rw [hmatch, and_iff_right hdot]
  · intro hdot ε ι b path endpoint hfound
    exact ((hmatch path).1 (Router.best_of_endpoint? hfound).isMatch).1 hdot

/-- `*.json` matches what it names; `*.tar.gz` can be registered, but does not match
`/x.tar.gz`. -/
theorem isMatch_ext_iff_named_of_tar_gz :
    (parse " *.json" = .ok (.ext "json") ∧
      (ext "json").isMatch "/v1.2/a.b.json" = true ∧ (ext "json").isMatch "/a.json/b" = false) ∧
    parse "*.tar.gz" = .ok (.ext "tar.gz") ∧ Names "tar.gz" "/x.tar.gz" ∧
      (ext "tar.gz").isMatch "/x.tar.gz" = false := by
  have hjson : parse " *.json" = .ok (.ext "json") := by decide
  have htar : parse "*.tar.gz" = .ok (.ext "tar.gz") := by decide
  obtain ⟨hnamed, -⟩ := isMatch_ext_iff_named hjson
  obtain ⟨-, -, hdead, -⟩ := isMatch_ext_iff_named htar
  refine ⟨⟨hjson, ?_, ?_⟩, htar, names_append (by decide), ?_⟩
  · exact (hnamed _).2 ⟨by decide, names_iff.2 (by decide)⟩
  · rw [Bool.eq_false_iff, Ne, hnamed, names_iff]
    decide
  · rw [Bool.eq_false_iff]
    exact mt hdead.1 (by decide)

end Pattern

end Route

end WebServer
