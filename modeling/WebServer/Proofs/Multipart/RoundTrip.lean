import Mathlib.Data.List.Forall2
import WebServer.Proofs.Multipart.Form

/-!
# WebServer.Proofs.Multipart.RoundTrip

What a form that was sent is read as. Its type, its data and the number and order of its parts are
those that were written, whatever they hold. The names of a part are so unless one of them holds a
semicolon; such a part is taken all the same, under another name.

Main statements: `Form.reads_as_written` and `Form.read_literally_iff`.
-/

namespace WebServer

namespace Multipart

namespace Part

variable {p : Part} {name : String}

/-! ## One part -/

theorem get?_fields (p : Part) :
    (⟨p.fields⟩ : Headers).get? "Content-Disposition" = some p.disposition ∧
      (⟨p.fields⟩ : Headers).get? "Content-Type" = p.contentType := by
  have hsame : sameName "Content-Disposition" "Content-Type" = false ∧
      sameName "Content-Type" "Content-Disposition" = false := by decide
  cases ht : p.contentType <;>
    simp [Headers.get?, Headers.named, fields, ht, hsame]

/-- A part is read from its disposition and its type. -/
theorem part_fields (h : parameter? (parameters p.disposition) "name" = some name) :
    part ⟨p.fields⟩ p.data =
      .ok ⟨name, parameter? (parameters p.disposition) "filename", p.contentType, p.data⟩ := by
  obtain ⟨hdisposition, htype⟩ := p.get?_fields
  unfold part
  rw [hdisposition, htype]
  simp only [h]
  rfl

/-- Names without a semicolon are read as they are written. -/
theorem part_fields_of_isPlain (h : p.IsQuotable) (hplain : p.IsPlain) :
    part ⟨p.fields⟩ p.data = .ok p := by
  obtain ⟨hname, hfile⟩ := (parameter?_disposition_iff h).2 hplain
  rw [part_fields hname, hfile]

/-- How a part is read: its type and data as they are, and its names when neither holds a
semicolon. -/
structure ReadAs (p q : Part) : Prop where
  contentType : q.contentType = p.contentType
  data : q.data = p.data
  names : (q.name = p.name ∧ q.filename = p.filename) ↔ p.IsPlain

theorem exists_readAs (h : p.IsQuotable) :
    ∃ q, part ⟨p.fields⟩ p.data = .ok q ∧ p.ReadAs q := by
  obtain ⟨name, hname⟩ := p.exists_parameter?_name
  refine ⟨_, part_fields hname, rfl, rfl, ?_⟩
  rw [← parameter?_disposition_iff h, hname, Option.some.injEq]

end Part

/-! ## Whole forms -/

/-- All parts are taken, whatever their names. -/
theorem exists_mapM_part {parts : List Part} (h : ∀ p ∈ parts, p.IsQuotable) :
    ∃ read, (parts.mapM fun p => part ⟨p.fields⟩ p.data) = .ok read ∧
      List.Forall₂ Part.ReadAs parts read := by
  induction parts with
  | nil => exact ⟨[], rfl, .nil⟩
  | cons p parts ih =>
      obtain ⟨hp, hparts⟩ := List.forall_mem_cons.1 h
      obtain ⟨q, hq, hread⟩ := Part.exists_readAs hp
      obtain ⟨read, hall, hreads⟩ := ih hparts
      rw [List.mapM_cons, hq, hall]
      exact ⟨q :: read, rfl, .cons hread hreads⟩

namespace Form

variable {f : Form} {others : List String} {value : String}

/-- **A form is read as it was written.** Its content type declares a boundary, quoted or not,
behind any other parameters. Its parts stand behind a preamble and before an epilogue, with names
that hold no semicolon, and with data in which the separator does not occur. Then the boundary is
recovered, the body is cut into exactly these parts, and they are the form of a request with such
a content type and body. -/
theorem reads_as_written (h : f.WellFormed) (hplain : ∀ p ∈ f.parts, p.IsPlain)
    (hothers : ∀ o ∈ others, IsOther o) (hvalue : value = f.boundary ∨ value = quote f.boundary) :
    boundaryOf (contentTypeOf others value) = .ok (some f.boundary) ∧
      parse f.encode f.boundary = .ok ⟨f.parts⟩ ∧
      ∀ head : Request.Head,
        head.headers.get? "Content-Type" = some (contentTypeOf others value) →
          (head.withBody f.encode).map (·.multipart) = .ok (some ⟨f.parts⟩) := by
  have hboundary := boundaryOf_contentTypeOf h.boundary hothers hvalue
  have hread : (f.parts.mapM fun p => part ⟨p.fields⟩ p.data) = .ok f.parts := by
    simpa using mapM_map_eq_ok (g := id) fun p hp =>
      Part.part_fields_of_isPlain (h.parts p hp).quotable (hplain p hp)
  have hparse : parse f.encode f.boundary = .ok ⟨f.parts⟩ := by
    rw [parse_encode h, hread]
    rfl
  refine ⟨hboundary, hparse, fun head htype => ?_⟩
  unfold Request.Head.withBody
  rw [htype]
  dsimp only
  rw [hboundary]
  dsimp only
  rw [hparse]
  rfl

/-- A field whose data holds blank lines and all but the last byte of the separator, and an empty
file, behind a preamble and in a request; and a form without parts. -/
theorem reads_as_written_two_parts :
    let f : Form :=
      { boundary := "x-y", preamble := utf8 "see\r\n", epilogue := utf8 "--x-y"
        parts := [⟨"a b=c", none, none, utf8 "\r\n\r\n--x-\r\n\r"⟩,
          ⟨"", some "d.txt", some "text/plain; charset=utf-8", []⟩] }
    let e : Form := { boundary := "x-y", parts := [] }
    let type := contentTypeOf [" a=b", "c"] (quote "x-y")
    let head : Request.Head :=
      { method := .post, path := "/", query := none, version := "HTTP/1.1"
        headers := ⟨[("content-type", type)]⟩ }
    (f.WellFormed ∧ e.WellFormed) ∧ boundaryOf type = .ok (some "x-y") ∧
      (parse f.encode "x-y" = .ok ⟨f.parts⟩ ∧ parse e.encode "x-y" = .ok ⟨[]⟩) ∧
      (head.withBody f.encode).map (·.multipart) = .ok (some ⟨f.parts⟩) := by
  intro f e type head
  have hf : f.WellFormed := by decide +kernel
  have he : e.WellFormed := by decide +kernel
  have hplain : ∀ p ∈ f.parts, p.IsPlain := by decide
  have hothers : ∀ o ∈ [" a=b", "c"], IsOther o := by decide
  obtain ⟨htype, hread, hrequest⟩ := reads_as_written hf hplain hothers (.inr rfl)
  obtain ⟨-, hempty, -⟩ := reads_as_written he (List.forall_mem_nil _) hothers (.inr rfl)
  exact ⟨⟨hf, he⟩, htype, ⟨hread, hempty⟩, hrequest head (by decide)⟩

/-- **Names are read literally unless they hold a semicolon.** A form whose parts have names that
may stand between quotation marks is always read, and each of its parts with the type and the data
it was sent with; but the names are those that were written exactly when neither holds a
semicolon, which ends a parameter also between quotation marks. -/
theorem read_literally_iff (h : f.WellFormed) :
    ∃ read, parse f.encode f.boundary = .ok ⟨read⟩ ∧ List.Forall₂ Part.ReadAs f.parts read := by
  obtain ⟨read, hread, hreads⟩ := exists_mapM_part fun p hp => (h.parts p hp).quotable
  refine ⟨read, ?_, hreads⟩
  rw [parse_encode h, hread]
  rfl

/-- A file whose name holds an equals sign and blanks, and one with a semicolon in its name. -/
theorem read_literally_iff_semicolon :
    let f : Form :=
      { boundary := "b"
        parts := [⟨"a = b", some " c ", none, utf8 "x"⟩, ⟨"a;b", some "c", none, utf8 "x"⟩] }
    f.WellFormed ∧ ∃ q q', parse f.encode "b" = .ok ⟨[q, q']⟩ ∧
      (q.name = "a = b" ∧ q.filename = some " c ") ∧
      ¬ (q'.name = "a;b" ∧ q'.filename = some "c") := by
  intro f
  have hf : f.WellFormed := by decide +kernel
  obtain ⟨read, hread, hreads⟩ := read_literally_iff hf
  obtain _ | ⟨hq, _ | ⟨hq', _ | _⟩⟩ := hreads
  exact ⟨hf, _, _, hread, hq.names.2 (by decide),
    fun hsame => (hq'.names.1 hsame).name (by decide)⟩

end Form

end Multipart

end WebServer
