import WebServer.Proofs.Chunked.RoundTrip
import WebServer.Proofs.Request.Growth
import WebServer.Proofs.Request.Message

/-!
# WebServer.Proofs.Request.RoundTrip

Requests are read as they are written: the requests that a client sends one after
the other are the ones that are read, in order, and what it sends behind them is
not looked at (`parseMany_encode`).
-/

namespace WebServer

namespace Request

variable {m : Message} {limits : Limits}

/-! ## The body -/

/-- How the end of a body is found. -/
def Content.framing (c : Content) (limits : Limits) : Framing :=
  match c with
  | .whole body => .length body.length
  | .chunks _ => .chunked { limit := limits.maxBody }

namespace Message

theorem WellFormed.bytes_lt (h : m.WellFormed limits) : m.content.bytes.length < wordLimit := by
  have hword := h.word
  rw [encode_eq, List.length_append, List.length_append] at hword
  omega

/-- Only the last field says how a body is read. -/
theorem getAll_headers (h : m.WellFormed limits) {n : String} (hn : n ∈ bodyFields) :
    m.headers.getAll n =
      if sameName m.content.field.1 n then [m.content.field.2] else [] := by
  have hfields : (⟨m.fields⟩ : Headers).getAll n = [] := by
    rw [Headers.getAll, List.map_eq_nil_iff, List.filter_eq_nil_iff]
    intro f hf
    rw [Headers.named, h.free f hf n hn]
    exact Bool.false_ne_true
  have happend := Headers.getAll_append ⟨m.fields⟩ m.content.field.1 m.content.field.2 n
  rw [hfields, List.nil_append] at happend
  exact happend

/-- The framing that is asked for is the one that is sent. -/
theorem ofHeaders_headers (h : m.WellFormed limits) :
    Framing.ofHeaders m.headers limits = .ok (m.content.framing limits) := by
  have hcoding := getAll_headers h (n := "Transfer-Encoding") (by decide)
  have hlength := getAll_headers h (n := "Content-Length") (by decide)
  cases hc : m.content with
  | whole body =>
      have hbody : body.length ≤ limits.maxBody := by simpa [hc, Content.body] using h.body
      have hword : body.length < wordLimit := by simpa [hc, Content.bytes] using h.bytes_lt
      have hother : ¬ sameName "Content-Length" "Transfer-Encoding" = true := by decide
      rw [hc, Content.field, if_neg hother] at hcoding
      rw [hc, Content.field, if_pos (sameName_refl _)] at hlength
      have hcontains : ¬ m.headers.contains "Transfer-Encoding" = true := by
        simp [Headers.contains, Headers.get?_eq_head?, hcoding]
      have hdeclared : Framing.declaredLength m.headers = .ok body.length := by
        rw [Framing.declaredLength, hlength, List.map_singleton, trimText_toString,
          decimal?_toString hword]
        rfl
      rw [Framing.ofHeaders, if_neg hcontains, hdeclared]
      exact if_neg (Nat.not_lt.2 hbody)
  | chunks pieces =>
      rw [hc, Content.field, if_pos (sameName_refl _)] at hcoding
      have hcontains : m.headers.contains "Transfer-Encoding" = true := by
        simp [Headers.contains, Headers.get?_eq_head?, hcoding]
      have hchunked : Framing.isChunked m.headers = true := by
        rw [Framing.isChunked, hcoding]
        decide
      rw [Framing.ofHeaders, if_pos hcontains, if_pos hchunked]
      rfl

/-- A body is read as it is written. -/
theorem decode_bytes (h : m.WellFormed limits) (rest : Bytes) :
    ((m.content.framing limits).decode (m.content.bytes ++ rest)).1 =
      .ok (some (m.content.body, m.content.bytes.length)) := by
  have hpieces := h.pieces
  have hbody := h.body
  have hword := h.bytes_lt
  cases hc : m.content with
  | whole body =>
      rw [Content.framing, Framing.decode_length_eq_some_iff]
      exact ⟨by simp [Content.bytes], by simp [Content.bytes, Content.body], rfl⟩
  | chunks pieces =>
      rw [hc] at hpieces hbody hword
      have hlt : (pieces.flatMap Chunked.encode).length < wordLimit := by
        rw [Content.bytes, List.length_append] at hword
        omega
      obtain ⟨d', hd, hchunks⟩ := Chunked.Decoder.decode_flatMap_encode hpieces hbody hlt rest
      rw [Content.framing, Framing.decode_chunked_eq_some_iff, Content.bytes, List.append_assoc]
      exact ⟨d', hd, by rw [hchunks]; rfl⟩

/-- A request that is no form submission has no parts. -/
theorem withBody_head (h : m.WellFormed limits) :
    m.head.withBody m.content.body = .ok m.request := by
  have htype := getAll_headers h (n := "Content-Type") (by decide)
  have hnone : m.head.headers.get? "Content-Type" = none := by
    have hfree : sameName m.content.field.1 "Content-Type" ≠ true := by
      cases m.content <;> simp [Content.field] <;> decide
    rw [if_neg hfree] at htype
    rw [Headers.get?_eq_head?, head, htype]
    rfl
  rw [Head.withBody, hnone]
  rfl

end Message

/-- **A request is read as it is written**, whatever follows it. -/
theorem parse_encode (h : m.WellFormed limits) (rest : Bytes) :
    parse (m.encode ++ rest) limits = .ok (m.request, m.encode.length) := by
  have hhead := Head.parse_encode h rest
  have hbehind : (m.encode ++ rest).drop ((utf8 m.text).length + 4) = m.content.bytes ++ rest := by
    rw [Message.encode_eq, List.append_assoc, List.append_assoc, ← List.drop_drop, List.drop_left]
    rfl
  have hlength : m.encode.length = (utf8 m.text).length + 4 + m.content.bytes.length := by
    rw [Message.encode_eq, List.length_append, List.length_append, blankLine, ← Nat.add_assoc]
    rfl
  rw [parse_of_head hhead (Message.ofHeaders_headers h), hbehind, Message.decode_bytes h]
  dsimp only
  rw [Message.withBody_head h, hlength]
  rfl

/-! ## Requests one after the other -/

/-- More steps than there are bytes are never taken. -/
theorem parseManyWithin_eq {fuel fuel' : Nat} {buf : Bytes} (h : buf.length ≤ fuel)
    (h' : buf.length ≤ fuel') :
    parseManyWithin fuel buf limits = parseManyWithin fuel' buf limits := by
  induction fuel generalizing buf fuel' with
  | zero =>
      obtain rfl : buf = [] := List.eq_nil_of_length_eq_zero (Nat.le_zero.1 h)
      cases fuel' <;> rfl
  | succ fuel ih =>
      cases fuel' with
      | zero =>
          obtain rfl : buf = [] := List.eq_nil_of_length_eq_zero (Nat.le_zero.1 h')
          rfl
      | succ fuel' =>
          rw [parseManyWithin, parseManyWithin]
          cases hp : parse buf limits with
          | error e => rfl
          | ok accepted =>
              obtain ⟨r, n⟩ := accepted
              have hn := le_of_parse hp
              have hlater : parseManyWithin fuel (buf.drop n) limits =
                  parseManyWithin fuel' (buf.drop n) limits :=
                ih (by rw [List.length_drop]; omega) (by rw [List.length_drop]; omega)
              dsimp only
              rw [hlater]

/-- The request in front is read first, and then what is behind it. -/
theorem parseMany_of_parse {buf : Bytes} {r : Request} {n : Nat}
    (h : parse buf limits = .ok (r, n)) :
    parseMany buf limits = .ok (r, n) :: parseMany (buf.drop n) limits := by
  have hn := le_of_parse h
  rw [parseMany]
  cases hb : buf.length with
  | zero => omega
  | succ fuel =>
      have hempty : ¬ buf.isEmpty = true := by
        rw [List.isEmpty_iff, ← List.length_eq_zero_iff]
        omega
      have hlater : parseManyWithin fuel (buf.drop n) limits = parseMany (buf.drop n) limits :=
        parseManyWithin_eq (by rw [List.length_drop]; omega) (Nat.le_refl _)
      rw [parseManyWithin, if_neg hempty, h, ← hlater]

/-- **Requests are read as they are written.** Requests that are sent one after the
other are read one after the other, each with the bytes it was written in, and reading
goes on behind the last one. -/
theorem parseMany_encode {ms : List Message} (h : ∀ m ∈ ms, m.WellFormed limits) (rest : Bytes) :
    parseMany (ms.flatMap Message.encode ++ rest) limits =
        (ms.map fun m => .ok (m.request, m.encode.length)) ++ parseMany rest limits ∧
      ∀ m ∈ ms, m.request.target = m.target := by
  constructor
  · induction ms with
    | nil => rfl
    | cons m ms ih =>
        have hm := parse_encode (h m List.mem_cons_self) (ms.flatMap Message.encode ++ rest)
        have hms := ih fun x hx => h x (List.mem_cons_of_mem _ hx)
        rw [List.flatMap_cons, List.append_assoc, parseMany_of_parse hm, List.drop_left, hms]
        rfl
  · intro m _
    exact Target.join_split m.target

/-- Bodies that look like the end of a body and like a request, within limits that
just allow them, and the beginning of a third request. -/
theorem parseMany_encode_two :
    let limits : Limits := { maxHeader := 63, maxBody := 18 }
    let ms : List Message :=
      [{ method := .post, target := "/a?b?c", version := "HTTP/1.1"
         fields := [("X", "ä: b"), ("x", "")]
         content := .chunks [utf8 "hi", utf8 "\r\n0\r\n\r\n"] },
        { method := .put, target := "/", version := "HTTP/1.0", fields := []
          content := .whole (utf8 "GET / HTTP/1.1\r\n\r\n") }]
    (∀ m ∈ ms, m.WellFormed limits) ∧
      parseMany (ms.flatMap Message.encode ++ utf8 "GET /") limits =
        [.ok ({ method := .post, path := "/a", query := some "b?c", version := "HTTP/1.1"
                headers := ⟨[("X", "ä: b"), ("x", ""), ("Transfer-Encoding", "chunked")]⟩
                body := utf8 "hi\r\n0\r\n\r\n" }, 91),
          .ok ({ method := .put, path := "/", version := "HTTP/1.0"
                 headers := ⟨[("Content-Length", "18")]⟩
                 body := utf8 "GET / HTTP/1.1\r\n\r\n" }, 56),
          .error .incomplete] := by
  intro limits ms
  have hwell : ∀ m ∈ ms, m.WellFormed limits := by decide +kernel
  obtain ⟨hparsed, _⟩ := parseMany_encode hwell (utf8 "GET /")
  refine ⟨hwell, ?_⟩
  rw [hparsed]
  decide +kernel

end Request

end WebServer
