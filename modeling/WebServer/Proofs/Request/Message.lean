import WebServer.Proofs.Request.Stage
import WebServer.Proofs.Text.Line
import WebServer.Proofs.Text.Numeral
import WebServer.Request.Parser

/-!
# WebServer.Proofs.Request.Message

Requests as clients write them, and that the head of one is read as it was
written (`Head.parse_encode`).

```
METHOD target version CRLF
name: value CRLF  …
Content-Length: n CRLF      or    Transfer-Encoding: chunked CRLF
CRLF
body                              chunks, the last one empty
```
-/

namespace WebServer

namespace Request

/-! ## Writing a request -/

/-- A body and how it is delimited. -/
inductive Content where
  /-- All of it, behind its length. -/
  | whole (body : Bytes)
  /-- Cut into chunks. -/
  | chunks (pieces : List Bytes)
deriving DecidableEq

namespace Content

def body : Content → Bytes
  | .whole body => body
  | .chunks pieces => pieces.flatten

/-- The field that announces the body. -/
def field : Content → String × String
  | .whole body => ("Content-Length", toString body.length)
  | .chunks _ => ("Transfer-Encoding", "chunked")

/-- The body on the wire. -/
def bytes : Content → Bytes
  | .whole body => body
  | .chunks pieces => pieces.flatMap Chunked.encode ++ Chunked.lastChunk

/-- The chunks a body is cut into. -/
def pieces : Content → List Bytes
  | .whole _ => []
  | .chunks pieces => pieces

end Content

/-- A request to be written. -/
structure Message where
  method : Method
  target : String
  version : String
  /-- The header fields, without the one that announces the body. -/
  fields : List (String × String)
  content : Content
deriving DecidableEq

/-- A header field as a line. -/
def fieldLine (f : String × String) : String := f.1 ++ ": " ++ f.2

namespace Message

variable (m : Message)

def requestLine : String := m.method.name ++ " " ++ m.target ++ " " ++ m.version

/-- The header fields, the one that announces the body last. -/
def headers : Headers := ⟨m.fields ++ [m.content.field]⟩

/-- The lines of the head. -/
def lines : List String := m.requestLine :: m.headers.entries.map fieldLine

/-- The request on the wire. -/
def encode : Bytes := (m.lines.flatMap fun l => utf8 l ++ crlf) ++ crlf ++ m.content.bytes

/-- The head without its last line end. -/
def text : String := "\r\n".intercalate m.lines

/-- The head as it is read. -/
def head : Head :=
  { method := m.method, path := (Target.split m.target).1, query := (Target.split m.target).2,
    version := m.version, headers := m.headers }

/-- The request as it is read. -/
def request : Request :=
  { method := m.method, path := (Target.split m.target).1, query := (Target.split m.target).2,
    version := m.version, headers := m.headers, body := m.content.body }

end Message

/-! ## What may be written -/

/-- A word of a request line, or the name of a field. -/
def IsWord (s : String) : Prop := s ≠ "" ∧ ∀ c ∈ s.toList, isBlank c = false

instance (s : String) : Decidable (IsWord s) :=
  decidable_of_iff (s ≠ "" ∧ (s.toList.all fun c => !isBlank c) = true) (by simp [IsWord])

/-- A header field that fits on a line. -/
structure IsField (f : String × String) : Prop where
  name : IsWord f.1
  colon : ':' ∉ f.1.toList
  trimmed : trimText f.2 = f.2
  value : '\r' ∉ f.2.toList

instance (f : String × String) : Decidable (IsField f) :=
  decidable_of_iff
    (IsWord f.1 ∧ ':' ∉ f.1.toList ∧ trimText f.2 = f.2 ∧ '\r' ∉ f.2.toList)
    ⟨fun ⟨name, colon, trimmed, value⟩ => ⟨name, colon, trimmed, value⟩,
      fun ⟨name, colon, trimmed, value⟩ => ⟨name, colon, trimmed, value⟩⟩

/-- The fields that say how a body is read. -/
def bodyFields : List String := ["Content-Length", "Transfer-Encoding", "Content-Type"]

/-- A request that can be written and is within the limits. -/
structure Message.WellFormed (m : Message) (limits : Limits) : Prop where
  slash : m.target.toList.head? = some '/'
  target : IsWord m.target
  http : "HTTP/1.".toList.isPrefixOf m.version.toList = true
  version : IsWord m.version
  fields : ∀ f ∈ m.fields, IsField f
  free : ∀ f ∈ m.fields, ∀ n ∈ bodyFields, sameName f.1 n = false
  pieces : ∀ p ∈ m.content.pieces, p ≠ []
  head : (utf8 m.text).length ≤ limits.maxHeader
  body : m.content.body.length ≤ limits.maxBody
  /-- The length of a buffer is a machine word. -/
  word : m.encode.length < wordLimit

instance (m : Message) (limits : Limits) : Decidable (m.WellFormed limits) :=
  decidable_of_iff
    ((m.target.toList.head? = some '/' ∧ IsWord m.target) ∧
      ("HTTP/1.".toList.isPrefixOf m.version.toList = true ∧ IsWord m.version) ∧
      ((∀ f ∈ m.fields, IsField f) ∧
        ∀ f ∈ m.fields, ∀ n ∈ bodyFields, sameName f.1 n = false) ∧
      (∀ p ∈ m.content.pieces, p ≠ []) ∧
      (utf8 m.text).length ≤ limits.maxHeader ∧ m.content.body.length ≤ limits.maxBody ∧
      m.encode.length < wordLimit)
    ⟨fun ⟨⟨slash, target⟩, ⟨http, version⟩, ⟨fields, free⟩, pieces, head, body, word⟩ =>
        { slash, target, http, version, fields, free, pieces, head, body, word },
      fun h => ⟨⟨h.slash, h.target⟩, ⟨h.http, h.version⟩, ⟨h.fields, h.free⟩, h.pieces,
        h.head, h.body, h.word⟩⟩

/-! ## Words and fields -/

section

variable {f : String × String} {s : String}

theorem IsWord.toList_ne (h : IsWord s) : s.toList ≠ [] := by
  rw [Ne, String.toList_eq_nil_iff]
  exact h.1

/-- A word holds no line end. -/
theorem IsWord.not_mem (h : IsWord s) {c : Char} (hc : isBlank c = true) : c ∉ s.toList := by
  intro hmem
  rw [h.2 c hmem] at hc
  contradiction

theorem isWord_name (method : Method) : IsWord method.name := by
  cases method <;> decide

/-- The field that announces a body fits on a line. -/
theorem Content.isField_field (c : Content) : IsField c.field := by
  cases c with
  | whole body =>
      have hname : IsWord "Content-Length" ∧ ':' ∉ "Content-Length".toList := by decide
      have hvalue : '\r' ∉ (toString body.length).toList := by
        intro h
        rw [toList_toString] at h
        have hplain := of_mem_toDigits (by decide) (by decide) h
        contradiction
      exact ⟨hname.1, hname.2, trimText_toString _, hvalue⟩
  | chunks pieces =>
      have hfield : IsWord "Transfer-Encoding" ∧ ':' ∉ "Transfer-Encoding".toList ∧
        trimText "chunked" = "chunked" ∧ '\r' ∉ "chunked".toList := by decide
      exact ⟨hfield.1, hfield.2.1, hfield.2.2.1, hfield.2.2.2⟩

theorem toList_fieldLine (f : String × String) :
    (fieldLine f).toList = f.1.toList ++ ':' :: ' ' :: f.2.toList := by
  simp [fieldLine]

theorem splitOnce_fieldLine (h : ':' ∉ f.1.toList) :
    splitOnce ':' (fieldLine f).toList = some (f.1.toList, ' ' :: f.2.toList) :=
  splitOnce_eq_some_iff.2 ⟨toList_fieldLine f, h⟩

/-- The white space in front of a value is not part of it. -/
theorem IsField.ofList_trim (h : IsField f) : String.ofList (trim (' ' :: f.2.toList)) = f.2 := by
  rw [trim_cons (by decide)]
  exact h.trimmed

/-- A field is read as it is written. -/
theorem parseField_fieldLine (h : IsField f) : Head.parseField (fieldLine f).toList = .ok f := by
  have hname : ¬ (f.1.toList.isEmpty || f.1.toList.any isBlank) = true := by
    have hne := h.name.toList_ne
    have hblank := h.name.2
    simp_all
  unfold Head.parseField
  rw [splitOnce_fieldLine h.colon]
  dsimp only
  rw [trim_eq_self h.name.2, if_neg hname, h.ofList_trim, String.ofList_toList]

/-- A line with a field on it is not empty, and holds no line end. -/
theorem IsField.of_line (h : IsField f) : fieldLine f ≠ "" ∧ '\r' ∉ (fieldLine f).toList := by
  have hname := h.name.not_mem (c := '\r') (by decide)
  have hvalue := h.value
  rw [Ne, ← String.toList_eq_nil_iff, toList_fieldLine]
  simp [hname, hvalue]

/-- No line with a field on it is skipped. -/
theorem filter_map_fieldLine (fs : List (String × String)) :
    ((fs.map fieldLine).map String.toList).filter (fun l => !l.isEmpty) =
      fs.map fun f => (fieldLine f).toList := by
  rw [List.map_map, List.filter_eq_self.2]
  · rfl
  · intro l hl
    obtain ⟨f, _, rfl⟩ := List.mem_map.1 hl
    simp [toList_fieldLine]

end

/-! ## Reading a head -/

namespace Message

variable {m : Message} {limits : Limits}

theorem toList_requestLine (m : Message) :
    m.requestLine.toList =
      m.method.name.toList ++ ' ' :: (m.target.toList ++ ' ' :: m.version.toList) := by
  simp [requestLine]

/-- A request line is read as it is written. -/
theorem parseLine_requestLine (h : m.WellFormed limits) :
    Head.parseLine m.requestLine.toList =
      .ok (m.method, (Target.split m.target).1, (Target.split m.target).2, m.version) := by
  have hname := isWord_name m.method
  have hwords : words m.requestLine.toList =
      [m.method.name.toList, m.target.toList, m.version.toList] := by
    rw [toList_requestLine, words_append_cons hname.toList_ne hname.2 (by decide),
      words_append_cons h.target.toList_ne h.target.2 (by decide),
      words_of_word h.version.toList_ne h.version.2]
  have htarget : Target.parse? m.target = some (Target.split m.target) := by
    rw [Target.parse?, h.slash]
    rfl
  unfold Head.parseLine
  rw [hwords]
  dsimp only
  rw [String.ofList_toList, String.ofList_toList, String.ofList_toList, Method.ofName?_name]
  dsimp only
  rw [if_pos h.http, htarget]

theorem isField_of_mem_headers (h : m.WellFormed limits) :
    ∀ f ∈ m.headers.entries, IsField f := by
  intro f hf
  rw [headers, List.mem_append, List.mem_singleton] at hf
  rcases hf with hf | rfl
  · exact h.fields f hf
  · exact m.content.isField_field

/-- No line of a head is empty or holds a line end. -/
theorem of_mem_lines (h : m.WellFormed limits) {l : String} (hl : l ∈ m.lines) :
    l ≠ "" ∧ '\r' ∉ l.toList := by
  rw [lines, List.mem_cons, List.mem_map] at hl
  rcases hl with rfl | ⟨f, hf, rfl⟩
  · rw [Ne, ← String.toList_eq_nil_iff]
    have hname := (isWord_name m.method).not_mem (c := '\r') (by decide)
    have htarget := h.target.not_mem (c := '\r') (by decide)
    have hversion := h.version.not_mem (c := '\r') (by decide)
    rw [toList_requestLine]
    simp [hname, htarget, hversion]
  · exact (isField_of_mem_headers h f hf).of_line

theorem parseText_text (h : m.WellFormed limits) : Head.parseText m.text.toList = .ok m.head := by
  have hlines : crlfLines m.text.toList = m.lines.map String.toList :=
    crlfLines_toList_intercalate (by simp [lines]) fun l hl => (of_mem_lines h hl).2
  unfold Head.parseText
  rw [hlines, lines, List.map_cons]
  dsimp only
  rw [parseLine_requestLine h]
  dsimp only
  rw [filter_map_fieldLine,
    mapM_map_eq_ok fun f hf => parseField_fieldLine (isField_of_mem_headers h f hf)]
  rfl

theorem encode_eq (m : Message) : m.encode = utf8 m.text ++ (blankLine ++ m.content.bytes) := by
  have hne : m.lines ≠ [] := by simp [lines]
  rw [encode, ← utf8_intercalate_append_crlf hne, ← text]
  simp [blankLine, crlf]

end Message

/-- A head is read as it is written. -/
theorem Head.parse_encode {m : Message} {limits : Limits} (h : m.WellFormed limits)
    (rest : Bytes) :
    Head.parse (m.encode ++ rest) limits = .ok (m.head, (utf8 m.text).length + 4) := by
  have hend : Head.findEnd (m.encode ++ rest) 0 = some (utf8 m.text).length := by
    rw [Head.findEnd_zero, Message.encode_eq, List.append_assoc, List.append_assoc]
    exact indexOf?_blankLine (by simp [Message.lines]) (fun l hl => Message.of_mem_lines h hl) _
  have htext : (m.encode ++ rest).take (utf8 m.text).length = utf8 m.text := by
    rw [Message.encode_eq, List.append_assoc, List.take_left]
  rw [Head.parse_of_findEnd_some hend, if_neg (Nat.not_lt.2 h.head), htext, text?_utf8]
  dsimp only
  rw [Message.parseText_text h]
  rfl

end Request

end WebServer
