import WebServer.Text.Blank
import WebServer.Text.Split

/-!
# WebServer.Headers

The header fields of a message: pairs of a name and a value, in order. Names
are compared without regard to ASCII case, a name may occur more than once, and
the spelling a field was given is the one it keeps.

Main statements: what each change does to the values under a name
(`getAll_append`, `getAll_insert_self`, `getAll_erase_self`, and the `_of_ne`
forms for the other names).
-/

namespace WebServer

/-- Header fields in the order in which they are sent. -/
structure Headers where
  entries : List (String × String)
deriving DecidableEq, Inhabited

namespace Headers

/-- No header fields. -/
def empty : Headers := ⟨[]⟩

instance : EmptyCollection Headers := ⟨empty⟩

/-- The fields as pairs. -/
def ofList (es : List (String × String)) : Headers := ⟨es⟩

/-- Whether a field goes by the name. -/
def named (name : String) (e : String × String) : Bool := sameName e.1 name

/-! ## Looking up -/

/-- Every value under a name, in order. -/
def getAll (h : Headers) (name : String) : List String :=
  (h.entries.filter (named name)).map (·.2)

/-- The first value under a name. -/
def get? (h : Headers) (name : String) : Option String :=
  (h.entries.find? (named name)).map (·.2)

/-- Whether some field goes by the name. -/
def contains (h : Headers) (name : String) : Bool := (h.get? name).isSome

/-- The comma-separated items of a value, without the white space around them. -/
def items (value : String) : List (List Char) := (value.toList.splitOn ',').map trim

/-- Whether a comma-separated field such as `Connection` lists a token, in any
letter case. -/
def hasToken (h : Headers) (name token : String) : Bool :=
  (h.getAll name).any fun v => (items v).any fun t => foldCase t == foldCase token.toList

/-- The number of fields. -/
def size (h : Headers) : Nat := h.entries.length

/-- Whether there are no fields. -/
def isEmpty (h : Headers) : Bool := h.entries.isEmpty

/-! ## Changing -/

/-- Adds a field at the end. -/
def append (h : Headers) (name value : String) : Headers := ⟨h.entries ++ [(name, value)]⟩

/-- Replaces the first field of a name and drops its later ones; a new name goes
to the end. -/
def insertIn (name value : String) : List (String × String) → List (String × String)
  | [] => [(name, value)]
  | e :: es =>
      if named name e then (name, value) :: es.filter fun e => !named name e
      else e :: insertIn name value es

/-- Gives a name a single value. An existing field keeps its place. -/
def insert (h : Headers) (name value : String) : Headers := ⟨insertIn name value h.entries⟩

/-- Drops every field of a name. -/
def erase (h : Headers) (name : String) : Headers :=
  ⟨h.entries.filter fun e => !named name e⟩

/-- Drops every field of a name and reports the first value it had. -/
def remove (h : Headers) (name : String) : Option String × Headers := (h.get? name, h.erase name)

/-! ## The values under a name -/

theorem named_eq_of_sameName {m n : String} (h : sameName m n = true) : named m = named n := by
  funext e
  simp only [named, sameName] at *
  rw [beq_iff_eq] at h
  rw [h]

/-- The first value under a name is the first of all. -/
theorem get?_eq_head? (h : Headers) (name : String) : h.get? name = (h.getAll name).head? := by
  rw [get?, getAll, List.head?_map, List.head?_filter]

@[simp] theorem getAll_empty (name : String) : empty.getAll name = [] := rfl

/-- Appending adds the value at the end of its name's values. -/
theorem getAll_append (h : Headers) (n v m : String) :
    (h.append n v).getAll m = h.getAll m ++ if sameName n m then [v] else [] := by
  unfold append getAll
  rw [List.filter_append, List.map_append]
  by_cases hn : sameName n m <;> simp [named, hn]

theorem filter_insertIn_self (n v : String) (es : List (String × String)) :
    (insertIn n v es).filter (named n) = [(n, v)] := by
  induction es with
  | nil => simp [insertIn, named]
  | cons e es ih =>
      unfold insertIn
      split
      · simp [named, List.filter_filter]
      · next hn => simpa [hn] using ih

/-- A field goes by one name only. -/
theorem named_eq_false {n m : String} (h : sameName n m = false) {e : String × String}
    (he : named n e = true) : named m e = false := by
  cases hm : named m e with
  | false => rfl
  | true =>
      rw [named, sameName_comm] at he
      rw [named] at hm
      rw [sameName_trans he hm] at h
      contradiction

/-- Dropping the fields of a name leaves those of another. -/
theorem filter_named_filter_not {n m : String} (es : List (String × String))
    (h : sameName n m = false) :
    (es.filter fun e => !named n e).filter (named m) = es.filter (named m) := by
  rw [List.filter_filter]
  apply List.filter_congr
  intro e _
  cases he : named n e with
  | false => simp
  | true => simp [named_eq_false h he]

theorem filter_insertIn_of_ne {n m : String} (v : String) (es : List (String × String))
    (h : sameName n m = false) :
    (insertIn n v es).filter (named m) = es.filter (named m) := by
  induction es with
  | nil => simp [insertIn, named, h]
  | cons e es ih =>
      unfold insertIn
      split
      · next hn =>
          rw [List.filter_cons_of_neg (by simpa [named] using h), filter_named_filter_not es h,
            List.filter_cons_of_neg (by simp [named_eq_false h hn])]
      · rw [List.filter_cons, List.filter_cons, ih]

/-- Inserting leaves its name with the one value. -/
theorem getAll_insert_self (h : Headers) (n v : String) : (h.insert n v).getAll n = [v] := by
  simp [insert, getAll, filter_insertIn_self]

/-- Inserting does not touch other names. -/
theorem getAll_insert_of_ne (h : Headers) {n m : String} (v : String)
    (hne : sameName n m = false) : (h.insert n v).getAll m = h.getAll m := by
  simp [insert, getAll, filter_insertIn_of_ne v h.entries hne]

/-- Removing leaves its name without values. -/
theorem getAll_erase_self (h : Headers) (n : String) : (h.erase n).getAll n = [] := by
  simp [erase, getAll, List.filter_filter]

/-- Removing does not touch other names. -/
theorem getAll_erase_of_ne (h : Headers) {n m : String} (hne : sameName n m = false) :
    (h.erase n).getAll m = h.getAll m := by
  simp [erase, getAll, filter_named_filter_not h.entries hne]

end Headers

end WebServer
