import WebServer.Headers
import WebServer.Proofs.Text.Line

/-!
# WebServer.Proofs.Headers

Header fields are a multimap that keeps its order. A change (`Change`) is about the fields of one
name, in whatever letters, and leaves the others where they are and as they are spelt
(`others_apply`).

Main statement: what any changes, one after the other, come to, for the fields of a name and for
what is read from them (`applyAll_is_multimap`).
-/

namespace WebServer

namespace Headers

/-! ## Changes -/

/-- A change of header fields. -/
inductive Change where
  | append (name value : String)
  | insert (name value : String)
  | remove (name : String)

namespace Change

/-- The name that a change is about. -/
def name : Change → String
  | append n _ => n
  | insert n _ => n
  | remove n => n

/-- What the fields of its name become. -/
def fields (es : List (String × String)) : Change → List (String × String)
  | append n v => es ++ [(n, v)]
  | insert n v => [(n, v)]
  | remove _ => []

end Change

/-- The fields after a change. -/
def apply (h : Headers) : Change → Headers
  | .append n v => h.append n v
  | .insert n v => h.insert n v
  | .remove n => (h.remove n).2

/-- The fields after changes one after the other. -/
def applyAll (h : Headers) (cs : List Change) : Headers := cs.foldl apply h

/-- The fields of a name, in order. -/
def fieldsOf (h : Headers) (name : String) : List (String × String) :=
  h.entries.filter (named name)

/-- The fields of all other names, in order. -/
def others (h : Headers) (name : String) : List (String × String) :=
  h.entries.filter fun e => !named name e

variable {h : Headers} {n m v : String} {e : String × String}
  {es front back : List (String × String)}

theorem getAll_eq_map_fieldsOf (h : Headers) (m : String) :
    h.getAll m = (h.fieldsOf m).map (·.2) := rfl

theorem fieldsOf_eq_nil_iff : h.fieldsOf m = [] ↔ h.getAll m = [] := by
  rw [getAll_eq_map_fieldsOf, List.map_eq_nil_iff]

/-! ## Where a field is put -/

/-- Without a field of the name, the new one comes last. -/
theorem insertIn_of_forall (hnone : ∀ e ∈ es, named n e = false) (v : String) :
    insertIn n v es = es ++ [(n, v)] := by
  induction es with
  | nil => rfl
  | cons e es ih =>
      have he := hnone e List.mem_cons_self
      rw [insertIn, if_neg (by simp [he]), ih fun x hx => hnone x (List.mem_cons_of_mem e hx)]
      rfl

/-- The first field of the name gives its place to the new one, and the later ones go. -/
theorem insertIn_of_append_cons (hfront : ∀ x ∈ front, named n x = false) (he : named n e = true)
    (v : String) (back : List (String × String)) :
    insertIn n v (front ++ e :: back) = front ++ (n, v) :: back.filter fun x => !named n x := by
  induction front with
  | nil => rw [List.nil_append, insertIn, if_pos he, List.nil_append]
  | cons x front ih =>
      have hx := hfront x List.mem_cons_self
      rw [List.cons_append, insertIn, if_neg (by simp [hx]),
        ih fun y hy => hfront y (List.mem_cons_of_mem x hy)]
      rfl

theorem forall_named_eq_false_of_getAll (hnone : h.getAll n = []) :
    ∀ e ∈ h.entries, named n e = false := by
  intro e he
  have hnil := fieldsOf_eq_nil_iff.2 hnone
  simpa using List.filter_eq_nil_iff.1 hnil e he

/-- To give a value to a new name is to append it. -/
theorem insert_of_getAll_eq_nil (hnone : h.getAll n = []) (v : String) :
    h.insert n v = h.append n v := by
  rw [insert, insertIn_of_forall (forall_named_eq_false_of_getAll hnone), append]

/-- There is nothing to drop of a name without fields. -/
theorem erase_of_getAll_eq_nil (hnone : h.getAll n = []) : h.erase n = h := by
  have hkeep : h.entries.filter (fun e => !named n e) = h.entries := by
    refine List.filter_eq_self.2 fun e he => ?_
    rw [forall_named_eq_false_of_getAll hnone e he]
    rfl
  rw [erase, hkeep]

/-! ## What a change does -/

theorem filter_not_insertIn (n v : String) (es : List (String × String)) :
    (insertIn n v es).filter (fun e => !named n e) = es.filter fun e => !named n e := by
  induction es with
  | nil => simp [insertIn, named]
  | cons e es ih =>
      rw [insertIn]
      split
      · next he =>
          rw [List.filter_cons_of_neg (by simp [named]), List.filter_cons_of_neg (by simp [he]),
            List.filter_filter]
          simp only [Bool.and_self]
      · rw [List.filter_cons, List.filter_cons, ih]

/-- A change leaves the fields of all other names alone. -/
theorem others_apply (h : Headers) (c : Change) :
    (h.apply c).others c.name = h.others c.name := by
  cases c with
  | append n v =>
      show (h.entries ++ [(n, v)]).filter (fun e => !named n e) = _
      rw [List.filter_append, List.filter_cons_of_neg (by simp [named]), List.filter_nil,
        List.append_nil]
      rfl
  | insert n v => exact filter_not_insertIn n v h.entries
  | remove n =>
      show (h.entries.filter fun e => !named n e).filter (fun e => !named n e) = _
      rw [List.filter_filter]
      simp only [Bool.and_self]
      rfl

/-- A change is about the fields of its name, in whatever letters. -/
theorem fieldsOf_apply (h : Headers) (c : Change) (m : String) :
    (h.apply c).fieldsOf m =
      if sameName c.name m then c.fields (h.fieldsOf m) else h.fieldsOf m := by
  split
  · next hname =>
      have hnamed : named m = named c.name := (named_eq_of_sameName hname).symm
      rw [fieldsOf, fieldsOf, hnamed]
      cases c with
      | append n v =>
          show (h.entries ++ [(n, v)]).filter (named n) = _
          rw [List.filter_append, List.filter_cons_of_pos (by simp [named]), List.filter_nil]
          rfl
      | insert n v => exact filter_insertIn_self n v h.entries
      | remove n =>
          show (h.entries.filter _).filter (named n) = []
          rw [List.filter_filter]
          simp
  · next hname =>
      have hne : sameName c.name m = false := by simpa using hname
      cases c with
      | append n v =>
          show (h.entries ++ [(n, v)]).filter (named m) = _
          have hnot : ¬ named m (n, v) = true := hname
          rw [List.filter_append, List.filter_cons_of_neg hnot, List.filter_nil, List.append_nil]
          rfl
      | insert n v => exact filter_insertIn_of_ne v h.entries hne
      | remove n => exact filter_named_filter_not h.entries hne

/-- The fields of a name after changes: those changes count that are about the name. -/
theorem fieldsOf_applyAll (h : Headers) (cs : List Change) (m : String) :
    (h.applyAll cs).fieldsOf m =
      (cs.filter (sameName ·.name m)).foldl Change.fields (h.fieldsOf m) := by
  induction cs generalizing h with
  | nil => rfl
  | cons c cs ih =>
      rw [applyAll, List.foldl_cons, ← applyAll, ih, fieldsOf_apply, List.filter_cons]
      split <;> rfl

/-! ## What is read -/

theorem contains_iff (h : Headers) (m : String) : h.contains m = true ↔ h.getAll m ≠ [] := by
  rw [contains, get?_eq_head?, List.isSome_head?]

/-- A text between the commas of a value, or between a comma and an end of it. -/
def IsItem (item : List Char) (value : String) : Prop :=
  ',' ∉ item ∧ ∃ front back, value.toList = front ++ item ++ back ∧
    (∀ x ∈ front.getLast?, x = ',') ∧ (∀ x ∈ back.head?, x = ',')

theorem mem_items_iff {item : List Char} :
    item ∈ items v ↔ ∃ raw, IsItem raw v ∧ trim raw = item := by
  rw [items, List.mem_map]
  exact exists_congr fun raw => and_congr_left fun _ => mem_splitOn_iff

/-- A token is listed under a name: it stands between the commas of one of the values, up to
white space around it and the case of letters. -/
def Lists (h : Headers) (name token : String) : Prop :=
  ∃ v ∈ h.getAll name, ∃ item, IsItem item v ∧ foldCase (trim item) = foldCase token.toList

theorem hasToken_iff (h : Headers) (m t : String) : h.hasToken m t = true ↔ h.Lists m t := by
  rw [hasToken, List.any_eq_true]
  refine exists_congr fun v => and_congr_right fun _ => ?_
  rw [List.any_eq_true]
  constructor
  · rintro ⟨item, hmem, heq⟩
    obtain ⟨raw, hraw, rfl⟩ := mem_items_iff.1 hmem
    exact ⟨raw, hraw, beq_iff_eq.1 heq⟩
  · rintro ⟨raw, hraw, heq⟩
    exact ⟨trim raw, mem_items_iff.2 ⟨raw, hraw, rfl⟩, beq_iff_eq.2 heq⟩

/-! ## Changes and what is read -/

/-- **Header fields are a multimap in order.** However fields have been changed, the fields of a
name are what the changes about that name, in whatever letters, make of them. On the fields as
they then are:

* to append adds a field at the very end, and so a value behind those of its name;
* to insert leaves the one value, where the first field of the name was, or at the end if there
  was none;
* to remove gives the first value, and leaves none;
* each leaves the fields of all other names as they are spelt, in their order.

What is looked up is the first of all values, a name is there if it has a value, and a token if
it is listed. -/
theorem applyAll_is_multimap (h₀ : Headers) (cs : List Change) :
    let h := h₀.applyAll cs
    (∀ m, h.fieldsOf m = (cs.filter (sameName ·.name m)).foldl Change.fields (h₀.fieldsOf m)) ∧
    (∀ n v, (h.append n v).entries = h.entries ++ [(n, v)] ∧
      (h.append n v).getAll n = h.getAll n ++ [v]) ∧
    (∀ n v, (h.insert n v).getAll n = [v] ∧
      (h.getAll n = [] → (h.insert n v).entries = h.entries ++ [(n, v)]) ∧
      ∀ front e back, h.entries = front ++ e :: back → (∀ x ∈ front, named n x = false) →
        named n e = true →
        (h.insert n v).entries = front ++ (n, v) :: back.filter fun x => !named n x) ∧
    (∀ n, (h.remove n).1 = (h.getAll n).head? ∧ (h.remove n).2.getAll n = []) ∧
    (∀ c : Change, (h.apply c).others c.name = h.others c.name) ∧
    (∀ m, h.get? m = (h.getAll m).head?) ∧
    (∀ m, h.contains m = true ↔ h.getAll m ≠ []) ∧
    ∀ m t, h.hasToken m t = true ↔ h.Lists m t := by
  intro h
  refine ⟨fieldsOf_applyAll h₀ cs, fun n v => ⟨rfl, ?_⟩, fun n v => ⟨?_, ?_, ?_⟩,
    fun n => ⟨get?_eq_head? h n, getAll_erase_self h n⟩, others_apply h, get?_eq_head? h,
    contains_iff h, hasToken_iff h⟩
  · rw [getAll_append, sameName_refl, if_pos rfl]
  · exact getAll_insert_self h n v
  · intro hnone
    rw [insert_of_getAll_eq_nil hnone]
    rfl
  · intro front e back hentries hfront he
    rw [insert, hentries]
    exact insertIn_of_append_cons hfront he v back

/-- Fields of one name in three spellings, with another between them. -/
theorem applyAll_is_multimap_of_spellings :
    let h := (⟨[("Via", "a"), ("Tag", "b, C"), ("VIA", "c")]⟩ : Headers).applyAll
      [.append "via" "d", .remove "none"]
    (h.insert "viA" "e").entries = [("viA", "e"), ("Tag", "b, C")] ∧
      (h.insert "new" "e").entries = h.entries ++ [("new", "e")] ∧
      h.hasToken "tag" "c" = true ∧ h.getAll "vIA" = ["a", "c", "d"] := by
  intro h
  obtain ⟨hfields, _, hinsert, _, _, _, _, htoken⟩ :=
    applyAll_is_multimap ⟨[("Via", "a"), ("Tag", "b, C"), ("VIA", "c")]⟩
      [.append "via" "d", .remove "none"]
  obtain ⟨_, _, hplace⟩ := hinsert "viA" "e"
  obtain ⟨_, hlast, _⟩ := hinsert "new" "e"
  refine ⟨?_, hlast (by decide), (htoken "tag" "c").2 ?_, ?_⟩
  · exact hplace [] ("Via", "a") [("Tag", "b, C"), ("VIA", "c"), ("via", "d")] (by decide)
      (fun x hx => absurd hx List.not_mem_nil) (by decide)
  · exact ⟨"b, C", by decide, " C".toList,
      ⟨by decide, "b,".toList, [], by decide, by simp, by simp⟩, by decide⟩
  · rw [getAll_eq_map_fieldsOf, hfields "vIA"]
    decide

end Headers

end WebServer
