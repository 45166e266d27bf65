import WebServer.Proofs.Multipart.Parameter
import WebServer.Proofs.Request.Message

/-!
# WebServer.Proofs.Multipart.Form

Forms as they are sent, and where they are cut. Every delimiter is found where it was written: the
first one behind the preamble, the blank line of a part behind its header fields, and the separator
behind its data, although all of these may hold beginnings of what is searched for.

Main statement: a form is cut into the parts it was made of, and what each of them is read as
depends on its header fields alone (`Form.parse_encode`).
-/

namespace WebServer

namespace Multipart

open Request (fieldLine IsField)

variable {boundary : String} {delimiter data rest epilogue : Bytes}

/-! ## What is sent -/

theorem delimiterOf_ne_nil (boundary : String) : delimiterOf boundary ≠ [] := by
  rw [delimiterOf, Ne, utf8_eq_nil_iff, ← String.toList_eq_nil_iff]
  simp

theorem separatorOf_ne_nil (boundary : String) : separatorOf boundary ≠ [] :=
  List.cons_ne_nil _ _

namespace Part

/-- The header fields of a part. -/
def fields (p : Part) : List (String × String) :=
  ("Content-Disposition", p.disposition) :: p.contentType.toList.map ("Content-Type", ·)

/-- The header fields of a part, a blank line, and the data. -/
def encode (p : Part) : Bytes :=
  (p.fields.flatMap fun f => utf8 (fieldLine f) ++ crlf) ++ (crlf ++ p.data)

/-- A part that can be sent between delimiters of a boundary. -/
structure WellFormed (p : Part) (boundary : String) : Prop where
  quotable : p.IsQuotable
  name : '\r' ∉ p.name.toList
  filename : ∀ f ∈ p.filename, '\r' ∉ f.toList
  contentType : ∀ t ∈ p.contentType, trimText t = t ∧ '\r' ∉ t.toList
  data : ¬ separatorOf boundary <:+: p.data

instance (p : Part) (boundary : String) : Decidable (p.WellFormed boundary) :=
  decidable_of_iff
    (p.IsQuotable ∧ ('\r' ∉ p.name.toList ∧ ∀ f ∈ p.filename, '\r' ∉ f.toList) ∧
      (∀ t ∈ p.contentType, trimText t = t ∧ '\r' ∉ t.toList) ∧
      Bytes.indexOf? (separatorOf boundary) p.data = none)
    (by
      rw [Bytes.indexOf?_eq_none_iff_not_isInfix (separatorOf_ne_nil boundary)]
      exact ⟨fun ⟨quotable, ⟨name, filename⟩, contentType, data⟩ =>
          { quotable, name, filename, contentType, data },
        fun h => ⟨h.quotable, ⟨h.name, h.filename⟩, h.contentType, h.data⟩⟩)

end Part

/-- A form as it is sent. -/
structure Form where
  boundary : String
  preamble : Bytes := []
  parts : List Part
  epilogue : Bytes := []

namespace Form

/-- The preamble, each part behind a delimiter, and the closing delimiter with the epilogue. -/
def encode (f : Form) : Bytes :=
  f.preamble ++ ((f.parts.flatMap fun p => delimiterOf f.boundary ++ (crlf ++ (p.encode ++ crlf))) ++
    (delimiterOf f.boundary ++ (utf8 "--" ++ f.epilogue)))

/-- A form that can be sent. -/
structure WellFormed (f : Form) : Prop where
  boundary : IsBoundary f.boundary
  preamble : f.preamble = [] ∨ crlf <:+ f.preamble
  outside : ¬ delimiterOf f.boundary <:+: f.preamble
  parts : ∀ p ∈ f.parts, p.WellFormed f.boundary

instance (f : Form) : Decidable f.WellFormed :=
  decidable_of_iff
    (IsBoundary f.boundary ∧ (f.preamble = [] ∨ crlf.isSuffixOf f.preamble = true) ∧
      Bytes.indexOf? (delimiterOf f.boundary) f.preamble = none ∧
      ∀ p ∈ f.parts, p.WellFormed f.boundary)
    (by
      rw [Bytes.indexOf?_eq_none_iff_not_isInfix (delimiterOf_ne_nil f.boundary),
        List.isSuffixOf_iff_suffix]
      exact ⟨fun ⟨boundary, preamble, outside, parts⟩ => { boundary, preamble, outside, parts },
        fun h => ⟨h.boundary, h.preamble, h.outside, h.parts⟩⟩)

end Form

/-! ## The head of a part -/

/-- Header fields are read as they are written. -/
theorem partHeaders_intercalate {fs : List (String × String)} (hne : fs ≠ [])
    (h : ∀ f ∈ fs, IsField f) :
    partHeaders (utf8 ("\r\n".intercalate (fs.map fieldLine))) = .ok ⟨fs⟩ := by
  have hlines : crlfLines ("\r\n".intercalate (fs.map fieldLine)).toList =
      (fs.map fieldLine).map String.toList :=
    crlfLines_toList_intercalate (by simpa using hne)
      (List.forall_mem_map.2 fun f hf => (h f hf).of_line.2)
  unfold partHeaders
  rw [text?_utf8]
  simp only [hlines, Request.filter_map_fieldLine]
  rw [mapM_map_eq_ok fun f hf => ?_]
  · rfl
  · have hfield := h f hf
    rw [Request.splitOnce_fieldLine hfield.colon]
    dsimp only
    rw [hfield.ofList_trim, trim_eq_self hfield.name.2, String.ofList_toList]

namespace Part

variable {p : Part}

theorem fields_ne_nil (p : Part) : p.fields ≠ [] := List.cons_ne_nil _ _

/-- The blank line of a part stands behind its header fields. -/
theorem encode_eq (p : Part) :
    p.encode = utf8 ("\r\n".intercalate (p.fields.map fieldLine)) ++ (blankLine ++ p.data) := by
  have hne : p.fields.map fieldLine ≠ [] := by simpa using p.fields_ne_nil
  have hlines := utf8_intercalate_append_crlf hne
  rw [List.flatMap_map] at hlines
  rw [encode, ← hlines]
  simp [blankLine, crlf]

/-- A disposition starts with a letter and ends with a quotation mark, so nothing is lost. -/
theorem trimText_disposition (p : Part) : trimText p.disposition = p.disposition := by
  obtain ⟨cs, hcs⟩ : ∃ cs, p.disposition.toList = 'f' :: (cs ++ ['"']) := by
    cases hf : p.filename with
    | none =>
        exact ⟨"orm-data; name=\"".toList ++ p.name.toList, by simp [disposition, hf, quote]⟩
    | some f =>
        exact ⟨"orm-data; name=\"".toList ++ (p.name.toList ++ ("\"; filename=\"".toList ++
          f.toList)), by simp [disposition, hf, quote]⟩
  rw [trimText, hcs, trim, trimBy_of_ends (by decide) (by decide), ← hcs, String.ofList_toList]

theorem not_mem_disposition (h : p.WellFormed boundary) : '\r' ∉ p.disposition.toList := by
  have hname := h.name
  cases hf : p.filename with
  | none => simp [disposition, hf, quote, hname]
  | some f =>
      have hfile := h.filename f hf
      simp [disposition, hf, quote, hname, hfile]

theorem isField_of_mem_fields (h : p.WellFormed boundary) : ∀ f ∈ p.fields, IsField f := by
  intro f hf
  have hnames : (Request.IsWord "Content-Disposition" ∧ ':' ∉ "Content-Disposition".toList) ∧
      Request.IsWord "Content-Type" ∧ ':' ∉ "Content-Type".toList := by decide
  rcases List.mem_cons.1 hf with rfl | hf
  · exact ⟨hnames.1.1, hnames.1.2, p.trimText_disposition, not_mem_disposition h⟩
  · obtain ⟨t, ht, rfl⟩ := List.mem_map.1 hf
    obtain ⟨htrim, hcr⟩ := h.contentType t (Option.mem_toList.1 ht)
    exact ⟨hnames.2.1, hnames.2.2, htrim, hcr⟩

end Part

/-! ## Cutting -/

theorem cutAt_of_indexOf? (h : Bytes.indexOf? delimiter (data ++ (delimiter ++ rest)) =
    some data.length) : cutAt delimiter (data ++ (delimiter ++ rest)) = some (data, rest) := by
  rw [cutAt, h, Option.map_some, List.take_left, ← List.append_assoc, ← List.length_append,
    List.drop_left]

/-- The bytes of a delimiter hold no byte that does not stand for a character of the boundary. -/
theorem not_mem_delimiterOf {c : Char} {b : UInt8} (hb : b.toNat < 128) (hc : c.toNat = b.toNat)
    (hdash : c ≠ '-') (h : c ∉ boundary.toList) : b ∉ delimiterOf boundary :=
  not_mem_utf8_of_lt hb hc (by simpa [hdash] using h)

/-- The data of a part ends at the separator behind it. -/
theorem cutAt_separatorOf (h : IsBoundary boundary) (hdata : ¬ separatorOf boundary <:+: data)
    (rest : Bytes) :
    cutAt (separatorOf boundary) (data ++ (separatorOf boundary ++ rest)) = some (data, rest) := by
  have hcr : (13 : UInt8) ∉ 10 :: delimiterOf boundary := by
    rw [List.mem_cons, not_or]
    exact ⟨by decide, not_mem_delimiterOf (c := '\r') (by decide) rfl (by decide) h.cr⟩
  exact cutAt_of_indexOf? (Bytes.indexOf?_append_of_first hcr hdata rest)

/-- The preamble ends at the first delimiter. -/
theorem cutAt_delimiterOf {preamble : Bytes} (h : IsBoundary boundary)
    (hend : preamble = [] ∨ crlf <:+ preamble) (hpreamble : ¬ delimiterOf boundary <:+: preamble)
    (rest : Bytes) :
    cutAt (delimiterOf boundary) (preamble ++ (delimiterOf boundary ++ rest)) =
      some (preamble, rest) := by
  have hne := delimiterOf_ne_nil boundary
  refine cutAt_of_indexOf? ?_
  rcases hend with rfl | ⟨front, rfl⟩
  · exact Bytes.indexOf?_self_append hne rest
  · have hlf : (10 : UInt8) ∉ delimiterOf boundary :=
      not_mem_delimiterOf (c := '\n') (by decide) rfl (by decide) h.lf
    have hlast : front ++ crlf = (front ++ [13]) ++ [10] := by simp [crlf]
    rw [hlast] at hpreamble ⊢
    exact Bytes.indexOf?_append_of_last hne hlf hpreamble rest

/-! ## The parts -/

/-- What follows the first delimiter: the parts that are left, and the end of the form. -/
def behind (boundary : String) : List Part → Bytes → Bytes
  | [], epilogue => utf8 "--" ++ epilogue
  | p :: parts, epilogue =>
      crlf ++ (p.encode ++ (separatorOf boundary ++ behind boundary parts epilogue))

theorem delimiterOf_append_behind (boundary : String) (parts : List Part) (epilogue : Bytes) :
    delimiterOf boundary ++ behind boundary parts epilogue =
      (parts.flatMap fun p => delimiterOf boundary ++ (crlf ++ (p.encode ++ crlf))) ++
        (delimiterOf boundary ++ (utf8 "--" ++ epilogue)) := by
  induction parts with
  | nil => rfl
  | cons p parts ih =>
      rw [List.flatMap_cons, List.append_assoc, ← ih, behind, separatorOf]
      simp only [List.append_assoc]

/-- A part in front is read, and then those behind it. -/
theorem partsAfter_encode {p : Part} (hb : IsBoundary boundary) (h : p.WellFormed boundary)
    (next : Bytes) :
    partsAfter (separatorOf boundary) (crlf ++ (p.encode ++ (separatorOf boundary ++ next))) =
      match part ⟨p.fields⟩ p.data with
      | .error e => .error e
      | .ok q => (partsAfter (separatorOf boundary) next).map (q :: ·) := by
  have hne : p.fields.map fieldLine ≠ [] := by simpa using p.fields_ne_nil
  have hhead := cutAt_of_indexOf? (indexOf?_blankLine hne
    (List.forall_mem_map.2 fun f hf => (Part.isField_of_mem_fields h f hf).of_line)
    (p.data ++ (separatorOf boundary ++ next)))
  have hfields := partHeaders_intercalate p.fields_ne_nil (Part.isField_of_mem_fields h)
  have hdata := cutAt_separatorOf hb h.data next
  -- both cuts are where they were made, so all other cases are out
  rw [p.encode_eq, List.append_assoc, List.append_assoc]
  show partsAfter (separatorOf boundary) (13 :: 10 :: _) = _
  rw [partsAfter]
  split
  · next hcut => simp [hhead] at hcut
  · next raw content hcut =>
      obtain ⟨rfl, rfl⟩ := Prod.mk.inj (Option.some.inj (hhead.symm.trans hcut))
      rw [hfields]
      dsimp only
      split
      · next hcut' => simp [hdata] at hcut'
      · next data next' hcut' =>
          obtain ⟨rfl, rfl⟩ := Prod.mk.inj (Option.some.inj (hdata.symm.trans hcut'))
          rfl

/-- The parts that are left are read one by one, up to the end of the form. -/
theorem partsAfter_behind {parts : List Part} (hb : IsBoundary boundary)
    (h : ∀ p ∈ parts, p.WellFormed boundary) (epilogue : Bytes) :
    partsAfter (separatorOf boundary) (behind boundary parts epilogue) =
      parts.mapM fun p => part ⟨p.fields⟩ p.data := by
  induction parts with
  | nil =>
      have hdashes : utf8 "--" = [45, 45] := by decide
      rw [behind, hdashes]
      show partsAfter (separatorOf boundary) (45 :: 45 :: epilogue) = _
      rw [partsAfter]
      rfl
  | cons p parts ih =>
      obtain ⟨hp, hparts⟩ := List.forall_mem_cons.1 h
      rw [behind, partsAfter_encode hb hp, ih hparts, List.mapM_cons]
      cases part ⟨p.fields⟩ p.data with
      | error e => rfl
      | ok q => cases parts.mapM fun p => part ⟨p.fields⟩ p.data <;> rfl

/-- **A form is cut where it was put together.** -/
theorem Form.parse_encode {f : Form} (h : f.WellFormed) :
    parse f.encode f.boundary =
      (f.parts.mapM fun p => part ⟨p.fields⟩ p.data).map Multipart.mk := by
  rw [encode, ← delimiterOf_append_behind, parse, if_pos h.boundary.fits,
    cutAt_delimiterOf h.boundary h.preamble h.outside]
  dsimp only
  rw [partsAfter_behind h.boundary h.parts]

end Multipart

end WebServer
