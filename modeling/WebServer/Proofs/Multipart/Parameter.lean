import WebServer.Multipart
import WebServer.Proofs.Text.Line

/-!
# WebServer.Proofs.Multipart.Parameter

The parameters of a field value, such as `form-data; name="a"; filename="b"`. The value of a
parameter is read as it is written, with quotation marks around it or without (`unquote_quote`,
`unquote_of_trimmed`). But a field value is cut at every semicolon, also between quotation marks, so
nothing that is read holds one (`not_mem_of_parameter?`).

Main statements: a declared boundary is read (`boundaryOf_contentTypeOf`), and the names of a part
are where none of them holds a semicolon (`parameter?_disposition_iff`).
-/

namespace WebServer

namespace Multipart

variable {s value name boundary : String} {others : List String} {front rest key : List Char}

/-! ## Values -/

/-- A text between quotation marks. -/
def quote (s : String) : String := "\"" ++ s ++ "\""

theorem toList_quote (s : String) : (quote s).toList = '"' :: (s.toList ++ ['"']) := by
  simp [quote]

theorem trimBy_mark {cs : List Char} (h : '"' ∉ cs) : trimBy (· == '"') cs = cs :=
  trimBy_eq_self fun _ hc => beq_eq_false_iff_ne.2 fun heq => h (heq ▸ hc)

/-- What stands between quotation marks is read as it is. -/
theorem unquote_quote (h : '"' ∉ s.toList) : unquote (quote s).toList = s := by
  rw [unquote, toList_quote, trim, trimBy_of_ends (by decide) (by decide), trimBy_cons (by decide),
    trimBy_append_singleton (by decide), trimBy_mark h, String.ofList_toList]

/-- Without quotation marks white space at the ends is lost, and nothing else. -/
theorem unquote_of_trimmed (htrim : trimText s = s) (h : '"' ∉ s.toList) :
    unquote s.toList = s := by
  have hends : trim s.toList = s.toList := by
    have hlist := congrArg String.toList htrim
    rwa [trimText, String.toList_ofList] at hlist
  rw [unquote, hends, trimBy_mark h, String.ofList_toList]

/-! ## Parameters -/

theorem splitOnce_append (key rest : List Char) (h : '=' ∉ key) :
    splitOnce '=' (key ++ '=' :: rest) = some (key, rest) :=
  splitOnce_eq_some_iff.2 ⟨rfl, h⟩

/-- The parameters are the pieces behind the first semicolon that hold an equals sign. -/
theorem parameters_eq (h : value.toList = front ++ ';' :: rest) (hfront : ';' ∉ front) :
    parameters value = (rest.splitOn ';').filterMap (splitOnce '=') := by
  rw [parameters, h, List.splitOn_append_cons_self_of_not_mem hfront, List.drop_one, List.tail_cons]

/-- The last parameter of a name counts. -/
theorem parameter?_concat (ps : List (List Char × List Char)) (key raw : List Char)
    (name : String) :
    parameter? (ps ++ [(key, raw)]) name =
      if foldCase (trim key) == name.toList then some (unquote raw) else parameter? ps name := by
  rw [parameter?, List.reverse_append, List.reverse_singleton, List.singleton_append,
    List.find?_cons]
  split
  · next hkey => rw [if_pos hkey, Option.map_some]
  · next hkey => rw [if_neg (by simp [hkey]), parameter?]

theorem exists_parameter? {ps : List (List Char × List Char)} {raw : List Char}
    (h : (key, raw) ∈ ps) (hkey : foldCase (trim key) = name.toList) :
    ∃ v, parameter? ps name = some v := by
  have hsome : (ps.reverse.find? fun p => foldCase (trim p.1) == name.toList).isSome = true :=
    List.find?_isSome.2 ⟨(key, raw), List.mem_reverse.2 h, beq_iff_eq.2 hkey⟩
  obtain ⟨found, hfound⟩ := Option.isSome_iff_exists.1 hsome
  exact ⟨unquote found.2, by rw [parameter?, hfound, Option.map_some]⟩

/-- No value that is read holds a semicolon. -/
theorem not_mem_of_parameter? (h : parameter? (parameters value) name = some s) :
    ';' ∉ s.toList := by
  obtain ⟨⟨key, raw⟩, hfound, rfl⟩ := Option.map_eq_some_iff.1 h
  obtain ⟨piece, hpiece, hcut⟩ :=
    List.mem_filterMap.1 (List.mem_reverse.1 (List.mem_of_find?_eq_some hfound))
  have hfree := not_mem_of_mem_splitOn (List.mem_of_mem_drop hpiece)
  rw [(splitOnce_eq_some_iff.1 hcut).1] at hfree
  have hraw : ';' ∉ raw := fun hc => hfree (by simp [hc])
  rw [unquote, String.toList_ofList]
  exact fun hc => hraw (((trimBy_sublist _ _).trans (trimBy_sublist _ _)).subset hc)

/-! ## The boundary -/

/-- A boundary that may be declared: of a permitted length, on one line, without white space at its
ends, and without the characters that delimit parameters and their values. -/
structure IsBoundary (boundary : String) : Prop where
  fits : boundaryFits boundary = true
  trimmed : trimText boundary = boundary
  mark : '"' ∉ boundary.toList
  semicolon : ';' ∉ boundary.toList
  cr : '\r' ∉ boundary.toList
  lf : '\n' ∉ boundary.toList

instance (boundary : String) : Decidable (IsBoundary boundary) :=
  decidable_of_iff
    ((boundaryFits boundary = true ∧ trimText boundary = boundary) ∧
      ('"' ∉ boundary.toList ∧ ';' ∉ boundary.toList) ∧
      '\r' ∉ boundary.toList ∧ '\n' ∉ boundary.toList)
    ⟨fun ⟨⟨fits, trimmed⟩, ⟨mark, semicolon⟩, cr, lf⟩ =>
        { fits, trimmed, mark, semicolon, cr, lf },
      fun h => ⟨⟨h.fits, h.trimmed⟩, ⟨h.mark, h.semicolon⟩, h.cr, h.lf⟩⟩

/-- A parameter of another name, or a piece that is none. -/
structure IsOther (piece : String) : Prop where
  semicolon : ';' ∉ piece.toList
  name : ∀ p ∈ splitOnce '=' piece.toList, foldCase (trim p.1) ≠ "boundary".toList

instance (piece : String) : Decidable (IsOther piece) :=
  decidable_of_iff
    (';' ∉ piece.toList ∧
      ∀ p ∈ splitOnce '=' piece.toList, foldCase (trim p.1) ≠ "boundary".toList)
    ⟨fun ⟨semicolon, name⟩ => ⟨semicolon, name⟩, fun h => ⟨h.semicolon, h.name⟩⟩

/-- A content type that declares a boundary, behind some other parameters. -/
def contentTypeOf (others : List String) (value : String) : String :=
  ";".intercalate ("multipart/form-data" :: others ++ [" boundary=" ++ value])

theorem splitOn_contentTypeOf (hothers : ∀ o ∈ others, IsOther o) (hvalue : ';' ∉ value.toList) :
    (contentTypeOf others value).toList.splitOn ';' =
      "multipart/form-data".toList :: others.map String.toList ++
        [" boundary".toList ++ '=' :: value.toList] := by
  have hjoined : (contentTypeOf others value).toList =
      [';'].intercalate ("multipart/form-data".toList :: others.map String.toList ++
        [" boundary".toList ++ '=' :: value.toList]) := by
    rw [contentTypeOf, String.toList_intercalate]
    simp
  rw [hjoined]
  refine List.splitOn_intercalate _ (fun piece hpiece => ?_) (by simp)
  rw [List.cons_append, List.mem_cons, List.mem_append, List.mem_singleton] at hpiece
  rcases hpiece with rfl | hother | rfl
  · decide
  · obtain ⟨o, ho, rfl⟩ := List.mem_map.1 hother
    exact (hothers o ho).semicolon
  · simpa using hvalue

/-- A declared boundary is read, quoted or not. -/
theorem boundaryOf_contentTypeOf (h : IsBoundary boundary) (hothers : ∀ o ∈ others, IsOther o)
    (hvalue : value = boundary ∨ value = quote boundary) :
    boundaryOf (contentTypeOf others value) = .ok (some boundary) := by
  have hread : ';' ∉ value.toList ∧ unquote value.toList = boundary := by
    rcases hvalue with rfl | rfl
    · exact ⟨h.semicolon, unquote_of_trimmed h.trimmed h.mark⟩
    · exact ⟨by simpa [toList_quote] using h.semicolon, unquote_quote h.mark⟩
  have hsplit := splitOn_contentTypeOf hothers hread.1
  have hmedia : sameName (mediaType (contentTypeOf others value)) "multipart/form-data" = true := by
    rw [mediaType, hsplit, List.cons_append, List.headD_cons]
    decide
  have hparameters : parameters (contentTypeOf others value) =
      (others.map String.toList).filterMap (splitOnce '=') ++
        [(" boundary".toList, value.toList)] := by
    rw [parameters, hsplit, List.cons_append, List.drop_one, List.tail_cons, List.filterMap_append,
      List.filterMap_cons_some (splitOnce_append _ _ (by decide)), List.filterMap_nil]
  have hfirst : ((others.map String.toList).filterMap (splitOnce '=')).find?
      (fun p => foldCase (trim p.1) == "boundary".toList) = none := by
    refine List.find?_eq_none.2 fun p hp => ?_
    obtain ⟨_, hother, hcut⟩ := List.mem_filterMap.1 hp
    obtain ⟨o, ho, rfl⟩ := List.mem_map.1 hother
    simpa using (hothers o ho).name p hcut
  have hkey : (foldCase (trim " boundary".toList) == "boundary".toList) = true := by decide
  have hlast : [(" boundary".toList, value.toList)].find?
      (fun p => foldCase (trim p.1) == "boundary".toList) =
        some (" boundary".toList, value.toList) :=
    List.find?_cons_of_pos hkey
  unfold boundaryOf
  rw [if_pos hmedia, hparameters, List.find?_append, hfirst, hlast]
  dsimp only [Option.none_or]
  rw [hread.2, if_pos h.fits]

/-! ## The name and the file name of a part -/

namespace Part

variable {p : Part}

/-- The value of the `Content-Disposition` field of a part. -/
def disposition (p : Part) : String :=
  match p.filename with
  | none => "form-data; name=" ++ quote p.name
  | some f => "form-data; name=" ++ quote p.name ++ "; filename=" ++ quote f

/-- Names that may stand between quotation marks. -/
structure IsQuotable (p : Part) : Prop where
  name : '"' ∉ p.name.toList
  filename : ∀ f ∈ p.filename, '"' ∉ f.toList

instance (p : Part) : Decidable p.IsQuotable :=
  decidable_of_iff ('"' ∉ p.name.toList ∧ ∀ f ∈ p.filename, '"' ∉ f.toList)
    ⟨fun ⟨name, filename⟩ => ⟨name, filename⟩, fun h => ⟨h.name, h.filename⟩⟩

/-- Names without a semicolon. -/
structure IsPlain (p : Part) : Prop where
  name : ';' ∉ p.name.toList
  filename : ∀ f ∈ p.filename, ';' ∉ f.toList

instance (p : Part) : Decidable p.IsPlain :=
  decidable_of_iff (';' ∉ p.name.toList ∧ ∀ f ∈ p.filename, ';' ∉ f.toList)
    ⟨fun ⟨name, filename⟩ => ⟨name, filename⟩, fun h => ⟨h.name, h.filename⟩⟩

/-- The first parameter of a disposition is the name. -/
theorem exists_parameters_disposition (p : Part) :
    ∃ value others, parameters p.disposition = (" name".toList, value) :: others := by
  obtain ⟨tail, htail⟩ : ∃ tail, p.disposition = "form-data; name=" ++ quote p.name ++ tail := by
    unfold disposition
    split
    · exact ⟨"", by simp⟩
    · exact ⟨_, String.append_assoc⟩
  have hlist : p.disposition.toList = "form-data".toList ++
      ';' :: (" name=".toList ++ ((quote p.name).toList ++ tail.toList)) := by
    simp [htail]
  -- a name with semicolons is cut, but its first piece stays behind the key
  have hkey : ';' ∉ " name=".toList := by decide
  obtain ⟨first, others, -, hsplit⟩ :=
    exists_splitOn_append hkey ((quote p.name).toList ++ tail.toList)
  have hcut : splitOnce '=' (" name=".toList ++ first) = some (" name".toList, first) :=
    splitOnce_append " name".toList first (by decide)
  rw [parameters_eq hlist (by decide), hsplit, List.filterMap_cons_some hcut]
  exact ⟨_, _, rfl⟩

theorem exists_parameter?_name (p : Part) :
    ∃ name, parameter? (parameters p.disposition) "name" = some name := by
  obtain ⟨value, others, hparameters⟩ := p.exists_parameters_disposition
  rw [hparameters]
  exact exists_parameter? List.mem_cons_self (by decide)

theorem parameters_disposition (h : p.IsPlain) :
    parameters p.disposition = (" name".toList, (quote p.name).toList) ::
      p.filename.toList.map fun f => (" filename".toList, (quote f).toList) := by
  have hname : ';' ∉ " name".toList ++ '=' :: (quote p.name).toList := by
    simpa [toList_quote] using h.name
  have hcut := splitOnce_append " name".toList (quote p.name).toList (by decide)
  cases hf : p.filename with
  | none =>
      have hlist : p.disposition.toList =
          "form-data".toList ++ ';' :: (" name".toList ++ '=' :: (quote p.name).toList) := by
        simp [disposition, hf]
      rw [parameters_eq hlist (by decide), List.splitOn_eq_singleton hname,
        List.filterMap_cons_some hcut]
      rfl
  | some f =>
      have hlist : p.disposition.toList = "form-data".toList ++ ';' ::
          ((" name".toList ++ '=' :: (quote p.name).toList) ++ ';' ::
            (" filename".toList ++ '=' :: (quote f).toList)) := by
        simp [disposition, hf]
      have hfile : ';' ∉ " filename".toList ++ '=' :: (quote f).toList := by
        simpa [toList_quote] using h.filename f hf
      rw [parameters_eq hlist (by decide), List.splitOn_append_cons_self_of_not_mem hname,
        List.splitOn_eq_singleton hfile, List.filterMap_cons_some hcut,
        List.filterMap_cons_some (splitOnce_append _ _ (by decide))]
      rfl

/-- Both names are read as they are written when neither holds a semicolon, and only then. -/
theorem parameter?_disposition_iff (h : p.IsQuotable) :
    (parameter? (parameters p.disposition) "name" = some p.name ∧
        parameter? (parameters p.disposition) "filename" = p.filename) ↔ p.IsPlain := by
  constructor
  · rintro ⟨hname, hfile⟩
    exact ⟨not_mem_of_parameter? hname, fun f hf => not_mem_of_parameter? (hfile.trans hf)⟩
  · intro hplain
    have hname := unquote_quote h.name
    rw [parameters_disposition hplain]
    cases hf : p.filename with
    | none =>
        show parameter? ([] ++ [_]) _ = _ ∧ parameter? ([] ++ [_]) _ = _
        rw [parameter?_concat, parameter?_concat, if_pos (by decide), if_neg (by decide), hname]
        exact ⟨rfl, rfl⟩
    | some f =>
        have hfile := unquote_quote (h.filename f hf)
        show parameter? ([] ++ [_] ++ [_]) _ = _ ∧ parameter? ([] ++ [_] ++ [_]) _ = _
        rw [parameter?_concat, parameter?_concat, parameter?_concat, if_neg (by decide),
          if_pos (by decide), if_pos (by decide), hname, hfile]
        exact ⟨rfl, rfl⟩

end Part

end Multipart

end WebServer
