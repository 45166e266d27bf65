import WebServer.Proofs.Chunked.Extent
import WebServer.Proofs.Chunked.Grammar
import WebServer.Proofs.Request.Growth
import WebServer.Proofs.Text.Numeral

/-!
# WebServer.Proofs.Request.Accepted

What is known of a request that was accepted, whatever bytes it was read from. Two readers look at
its declared length: the framing reads all declarations and refuses those that differ, a request
reports its first and takes what is no number for 0. They agree on every accepted request
(`Measured`), unless the body came in chunks and its length was not declared at all
(`ComesInChunks`).

Main statement: `parse_guarantees`.
-/

namespace WebServer

namespace Request

variable {buf body : Bytes} {limits : Limits} {h : Headers} {r : Request} {k n : Nat}

/-- A request without transfer codings: each declared length is a numeral of the length of its
body, which is the length it reports, and without a declaration there is no body. -/
structure Measured (r : Request) : Prop where
  declared : ∀ v ∈ r.headers.getAll "Content-Length", IsDecimal (trim v.toList) r.body.length
  reported : r.contentLength = r.body.length
  undeclared : r.headers.getAll "Content-Length" = [] → r.body = []

/-- A request with transfer codings: the last one over all its fields is `chunked`, and its body is
the data of the chunks that it was sent in, one after the other. -/
structure ComesInChunks (r : Request) (limit : Nat) (bytes : Bytes) : Prop where
  coding : ∃ last,
    ((r.headers.getAll "Transfer-Encoding").flatMap Headers.items).getLast? = some last ∧
      foldCase last = "chunked".toList
  chunks : ∃ chunks, Chunked.IsBody chunks bytes ∧
    Chunked.decode bytes limit = .ok (chunks.map Chunked.Chunk.data, bytes.length) ∧
    r.body = chunks.flatMap Chunked.Chunk.data

/-! ## Declared lengths -/

/-- All declarations of a length that is taken are read as that length. -/
theorem Framing.of_declaredLength (hk : declaredLength h = .ok k) :
    (∀ v ∈ h.getAll "Content-Length", decimal? (trimText v) = some k) ∧
      (h.getAll "Content-Length" = [] → k = 0) := by
  unfold declaredLength at hk
  split at hk
  · next hnil =>
      obtain rfl := Except.ok.inj hk
      rw [List.map_eq_nil_iff.1 hnil]
      exact ⟨by simp, fun _ => rfl⟩
  · contradiction
  · next first others hcons =>
      split at hk
      · next hall =>
          obtain rfl := Except.ok.inj hk
          refine ⟨fun v hv => ?_, fun hnil => by simp [hnil] at hcons⟩
          have hmem : decimal? (trimText v) ∈ some first :: others :=
            hcons ▸ List.mem_map_of_mem hv
          rcases List.mem_cons.1 hmem with heq | hother
          · exact heq
          · exact beq_iff_eq.1 (List.all_eq_true.1 hall _ hother)
      · contradiction

/-- The length that the first declaration is read as is the one that all are. -/
theorem measured_of_declaredLength (hk : Framing.declaredLength r.headers = .ok r.body.length) :
    r.Measured := by
  obtain ⟨hall, hnil⟩ := Framing.of_declaredLength hk
  refine ⟨fun v hv => ?_, ?_, fun hnone => List.length_eq_zero_iff.1 (hnil hnone)⟩
  · rw [← unsigned?_ten_eq_some_iff, ← decimal?_trimText]
    exact hall v hv
  · rw [contentLength, Headers.get?_eq_head?]
    cases hvs : r.headers.getAll "Content-Length" with
    | nil => exact (hnil hvs).symm
    | cons v vs => simp [hall v (by rw [hvs]; exact List.mem_cons_self)]

/-! ## Chunks -/

theorem exists_of_isChunked (hc : Framing.isChunked h = true) :
    ∃ last, ((h.getAll "Transfer-Encoding").flatMap Headers.items).getLast? = some last ∧
      foldCase last = "chunked".toList := by
  unfold Framing.isChunked at hc
  split at hc
  · next last hlast => exact ⟨last, hlast, beq_iff_eq.1 hc⟩
  · contradiction

/-- A body that the chunk decoder hands out is made of chunks within the limit. -/
theorem exists_isBody_of_decode {limit : Nat}
    (hd : ((Framing.chunked { limit }).decode buf).1 = .ok (some (body, k))) :
    ∃ chunks, Chunked.IsBody chunks (buf.take k) ∧
      Chunked.decode (buf.take k) limit = .ok (chunks.map Chunked.Chunk.data, k) ∧
      body = chunks.flatMap Chunked.Chunk.data ∧ body.length ≤ limit := by
  obtain ⟨d, hdecode, rfl⟩ := Framing.decode_chunked_eq_some_iff.1 hd
  obtain ⟨chunks, hbody, hlimit, hchunks⟩ := Chunked.exists_isBody_of_decode hdecode
  have hk := Framing.le_of_decode hd
  have hfront : ({ limit } : Chunked.Decoder).decode (buf.take k) = (.ok (some k), d) := by
    rw [← List.take_append_drop k buf] at hdecode
    exact Chunked.Decoder.decode_of_append hdecode (by rw [List.length_take]; omega)
  have hflat : d.chunks.flatten = chunks.flatMap Chunked.Chunk.data := by
    rw [hchunks, List.flatMap_def]
  refine ⟨chunks, hbody, ?_, hflat, by rw [hflat]; exact hlimit⟩
  rw [Chunked.decode, hfront, ← hchunks]

/-! ## Accepted requests -/

/-- A head that has been read stands in front of the first blank line. -/
theorem Head.exists_of_parse {head : Head} {start : Nat}
    (hp : Head.parse buf limits = .ok (head, start)) :
    ∃ front, buf = front ++ (blankLine ++ buf.drop start) ∧
      Bytes.indexOf? blankLine buf = some front.length ∧
      start = front.length + blankLine.length ∧ front.length ≤ limits.maxHeader := by
  obtain ⟨hend, hfour, hstart, hmax⟩ := Head.findEnd_of_parse hp
  have hlength : (buf.take (start - 4)).length = start - 4 := by
    rw [List.length_take]
    omega
  have hbehind : start - 4 + blankLine.length = start := by
    simp only [blankLine, List.length_cons, List.length_nil]
    omega
  rw [Head.findEnd_zero] at hend
  have hsplit := Bytes.eq_append_of_indexOf? hend
  rw [hbehind] at hsplit
  exact ⟨buf.take (start - 4), hsplit, by rw [hlength]; exact hend, by rw [hlength, hbehind],
    by rw [hlength]; exact hmax⟩

/-- What the framing of a body says of the request it becomes part of. -/
theorem guarantees_of_decode {framing : Framing}
    (hframing : Framing.ofHeaders r.headers limits = .ok framing)
    (hdecode : (framing.decode buf).1 = .ok (some (r.body, k))) :
    r.body.length ≤ limits.maxBody ∧
      (r.headers.contains "Transfer-Encoding" = false → buf.take k = r.body ∧ r.Measured) ∧
      (r.headers.contains "Transfer-Encoding" = true →
        r.ComesInChunks limits.maxBody (buf.take k)) := by
  have htaken : (buf.take k).length = k := by
    have hk := Framing.le_of_decode hdecode
    rw [List.length_take]
    omega
  cases framing with
  | length len =>
      obtain ⟨hnone, hdeclared, hlimit⟩ := Framing.of_ofHeaders_length hframing
      obtain ⟨-, hbody, rfl⟩ := Framing.decode_length_eq_some_iff.1 hdecode
      rw [← hbody] at htaken ⊢
      refine ⟨by omega, fun _ => ⟨rfl, measured_of_declaredLength ?_⟩,
        fun hsome => by simp [hnone] at hsome⟩
      rw [htaken]
      exact hdeclared
  | chunked d =>
      obtain ⟨hsome, hchunked, rfl⟩ := Framing.of_ofHeaders_chunked hframing
      obtain ⟨chunks, hchunks, hread, hbody, hlimit⟩ := exists_isBody_of_decode hdecode
      refine ⟨hlimit, fun hnone => by simp [hsome] at hnone,
        fun _ => ⟨exists_of_isChunked hchunked, chunks, hchunks, ?_, hbody⟩⟩
      rw [htaken]
      exact hread

/-- **What an accepted request guarantees.** The bytes it takes are a head up to the first blank
line of the buffer, and a body behind that line; the head and the body are within their limits.
Without transfer codings the bytes behind the head are the body, and every declared length is its
length, as is the length it reports. With transfer codings they are chunks, whatever lengths are
declared, and the body is their data. -/
theorem parse_guarantees (hp : parse buf limits = .ok (r, n)) :
    ∃ head bytes rest, buf = head ++ (blankLine ++ (bytes ++ rest)) ∧
      Bytes.indexOf? blankLine buf = some head.length ∧
      n = head.length + blankLine.length + bytes.length ∧
      head.length ≤ limits.maxHeader ∧ r.body.length ≤ limits.maxBody ∧
      (r.headers.contains "Transfer-Encoding" = false → bytes = r.body ∧ r.Measured) ∧
      (r.headers.contains "Transfer-Encoding" = true → r.ComesInChunks limits.maxBody bytes) := by
  obtain ⟨head, start, framing, body, k, hhead, hframing, hdecode, hbody, rfl⟩ :=
    stages_of_parse hp
  obtain ⟨_, rfl⟩ := Head.exists_of_withBody hbody
  obtain ⟨front, hsplit, hend, rfl, hmax⟩ := Head.exists_of_parse hhead
  have htaken := List.length_take_of_le (Framing.le_of_decode hdecode)
  rw [← List.take_append_drop k (buf.drop _)] at hsplit
  exact ⟨front, (buf.drop _).take k, (buf.drop _).drop k, hsplit, hend, by rw [htaken], hmax,
    guarantees_of_decode hframing hdecode⟩

/-- A length that is declared twice and spelled differently, and one that chunks overrule. -/
theorem parse_guarantees_both_framings :
    let limits : Limits := { maxHeader := 99, maxBody := 3 }
    let twice := utf8 "PUT /a HTTP/1.1\r\nContent-Length: 3\r\ncontent-length: +03\r\n\r\nabc"
    let r : Request :=
      { method := .put, path := "/a", body := utf8 "abc"
        headers := ⟨[("Content-Length", "3"), ("content-length", "+03")]⟩ }
    let overruled := utf8 ("PUT /a HTTP/1.1\r\nContent-Length: 9\r\nTransfer-Encoding: gzip\r\n" ++
      "Transfer-Encoding: Chunked\r\n\r\n1;x\r\na\r\n0\r\n\r\n")
    let r' : Request :=
      { method := .put, path := "/a", body := utf8 "a"
        headers := ⟨[("Content-Length", "9"), ("Transfer-Encoding", "gzip"),
          ("Transfer-Encoding", "Chunked")]⟩ }
    (parse twice limits = .ok (r, twice.length) ∧ r.Measured) ∧
      parse overruled limits = .ok (r', overruled.length) ∧
      ∃ bytes, r'.ComesInChunks limits.maxBody bytes := by
  intro limits twice r overruled r'
  have htwice : parse twice limits = .ok (r, twice.length) := by decide +kernel
  have hoverruled : parse overruled limits = .ok (r', overruled.length) := by decide +kernel
  obtain ⟨_, _, _, _, _, _, _, _, hmeasured, _⟩ := parse_guarantees htwice
  obtain ⟨_, bytes, _, _, _, _, _, _, _, hchunks⟩ := parse_guarantees hoverruled
  exact ⟨⟨htwice, (hmeasured (by decide +kernel)).2⟩, hoverruled, bytes,
    hchunks (by decide +kernel)⟩

end Request

end WebServer
