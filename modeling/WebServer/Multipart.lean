import WebServer.Bytes
import WebServer.Headers

/-!
# WebServer.Multipart

Form submissions of type `multipart/form-data`. A body is cut at its declared
boundary:

```
preamble --boundary CRLF
head CRLF CRLF data CRLF --boundary CRLF
head CRLF CRLF data CRLF --boundary -- epilogue
```

A part's head names the form field and, for an upload, the file. The preamble
and the epilogue are ignored.
-/

namespace WebServer

namespace Multipart

/-- Why a form submission is refused. -/
inductive Error where
  | invalidBoundary
  | missingOpeningBoundary
  | missingClosingBoundary
  | invalidPartHeaders
  | missingName
deriving DecidableEq, Repr

/-- The wording of a refusal. -/
def Error.message : Error → String
  | .invalidBoundary => "missing or malformed multipart boundary"
  | .missingOpeningBoundary => "body does not start with the declared boundary"
  | .missingClosingBoundary => "body ends before the closing boundary"
  | .invalidPartHeaders => "malformed part headers"
  | .missingName => "part has no form field name"

/-- One part of a form submission. -/
structure Part where
  name : String
  filename : Option String
  contentType : Option String
  data : Bytes
deriving DecidableEq, Inhabited

namespace Part

/-- Whether the part is an uploaded file. -/
def isFile (p : Part) : Bool := p.filename.isSome

/-- The part's data as text, if it is UTF-8. -/
def text? (p : Part) : Option String := WebServer.text? p.data

end Part

end Multipart

/-- The parts of a form submission, in the order in which they were sent. -/
structure Multipart where
  parts : List Multipart.Part
deriving DecidableEq, Inhabited

namespace Multipart

/-! ## Fields and files -/

/-- The text of the first field of a name. -/
def field? (m : Multipart) (name : String) : Option String :=
  (m.parts.find? fun p => !p.isFile && p.name == name).bind Part.text?

/-- The first file uploaded under a name. -/
def file? (m : Multipart) (name : String) : Option Part :=
  m.parts.find? fun p => p.isFile && p.name == name

/-- The fields that are text, with their names. -/
def fields (m : Multipart) : List (String × String) :=
  m.parts.filterMap fun p => if p.isFile then none else p.text?.map (p.name, ·)

/-- The uploaded files. -/
def files (m : Multipart) : List Part := m.parts.filter Part.isFile

/-! ## The boundary -/

/-- The most bytes a boundary may have. -/
def maxBoundary : Nat := 70

/-- Whether a boundary has a permitted length. -/
def boundaryFits (boundary : String) : Bool :=
  !boundary.isEmpty && boundary.utf8ByteSize ≤ maxBoundary

/-- A parameter value without the white space and then the quotation marks
around it. -/
def unquote (v : List Char) : String := String.ofList (trimBy (· == '"') (trim v))

/-- The `name=value` parameters of a field value, the first item left out. -/
def parameters (value : String) : List (List Char × List Char) :=
  ((value.toList.splitOn ';').drop 1).filterMap (splitOnce '=')

/-- The media type of a field value: its first item. -/
def mediaType (value : String) : String :=
  String.ofList (trim ((value.toList.splitOn ';').headD []))

/-- The boundary that a content type declares. A type other than
`multipart/form-data` declares none; this type without one is an error. -/
def boundaryOf (contentType : String) : Except Error (Option String) :=
  if sameName (mediaType contentType) "multipart/form-data" then
    match (parameters contentType).find? fun p => foldCase (trim p.1) == "boundary".toList with
    | none => .error .invalidBoundary
    | some (_, v) =>
        let boundary := unquote v
        if boundaryFits boundary then .ok (some boundary) else .error .invalidBoundary
  else .ok none

/-! ## Cutting a body -/

/-- The parts before and after the first occurrence of a delimiter. -/
def cutAt (delimiter body : Bytes) : Option (Bytes × Bytes) :=
  (Bytes.indexOf? delimiter body).map fun k => (body.take k, body.drop (k + delimiter.length))

/-- What follows a cut is shorter than what was cut. -/
theorem length_of_cutAt {delimiter body a b : Bytes} (h : cutAt delimiter body = some (a, b)) :
    b.length < body.length := by
  unfold cutAt at h
  obtain ⟨k, hk, he⟩ := Option.map_eq_some_iff.1 h
  obtain ⟨_, rfl⟩ := Prod.mk.injEq .. ▸ he
  have hlt := (Bytes.isPrefixOf_drop_of_indexOf? hk).1
  have hd : delimiter ≠ [] := by
    rintro rfl
    simp [Bytes.indexOf?] at hk
  have := List.length_pos_iff.2 hd
  rw [List.length_drop]
  omega

/-- The header fields of a part. -/
def partHeaders (raw : Bytes) : Except Error Headers := do
  let some text := WebServer.text? raw | .error .invalidPartHeaders
  let fields ← ((crlfLines text.toList).filter fun l => !l.isEmpty).mapM fun line =>
    match splitOnce ':' line with
    | some (name, value) => .ok (String.ofList (trim name), String.ofList (trim value))
    | none => .error .invalidPartHeaders
  return ⟨fields⟩

/-- The last value among parameters of a name. -/
def parameter? (ps : List (List Char × List Char)) (name : String) : Option String :=
  (ps.reverse.find? fun p => foldCase (trim p.1) == name.toList).map fun p => unquote p.2

/-- A part, from its header fields and data. -/
def part (headers : Headers) (data : Bytes) : Except Error Part := do
  let some disposition := headers.get? "Content-Disposition" | .error .missingName
  let ps := parameters disposition
  let some name := parameter? ps "name" | .error .missingName
  return ⟨name, parameter? ps "filename", headers.get? "Content-Type", data⟩

/-- The parts that follow a delimiter, up to the closing one. -/
def partsAfter (separator rest : Bytes) : Except Error (List Part) :=
  match rest with
  | 45 :: 45 :: _ => .ok []
  | 13 :: 10 :: rest' =>
      match _h : cutAt blankLine rest' with
      | none => .error .invalidPartHeaders
      | some (raw, content) =>
          match partHeaders raw with
          | .error e => .error e
          | .ok headers =>
              match _h' : cutAt separator content with
              | none => .error .missingClosingBoundary
              | some (data, next) =>
                  match part headers data with
                  | .error e => .error e
                  | .ok p => (partsAfter separator next).map (p :: ·)
  | _ => .error .missingClosingBoundary
termination_by rest.length
decreasing_by
  have := length_of_cutAt ‹cutAt blankLine _ = _›
  have := length_of_cutAt ‹cutAt separator _ = _›
  simp only [List.length_cons]
  omega

/-- The delimiter of a boundary. -/
def delimiterOf (boundary : String) : Bytes := utf8 ("--" ++ boundary)

/-- The delimiter of a boundary, with the line end before it. -/
def separatorOf (boundary : String) : Bytes := crlf ++ delimiterOf boundary

/-- Cuts a body into parts. -/
def parse (body : Bytes) (boundary : String) : Except Error Multipart :=
  if boundaryFits boundary then
    match cutAt (delimiterOf boundary) body with
    | none => .error .missingOpeningBoundary
    | some (_, rest) => (partsAfter (separatorOf boundary) rest).map Multipart.mk
  else .error .invalidBoundary

end Multipart

end WebServer
