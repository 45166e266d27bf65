import WebServer.Proofs.Chunked.Backlog

/-!
# WebServer.Proofs.Chunked.Grammar

What a body in chunks looks like, whoever wrote it. A size may be spelled in several ways and be
followed by an extension, so a chunk is kept with its size line (`Chunk`), and all that counts of
a size line is the size that is read from it (`IsSizeLine`).

Main statements: the bytes that a decoder has moved over are chunks, and then a size line that
says zero and lines of a trailer (`Reaches.exists_chunks`), such chunks are moved over
(`reaches_chunks`), and what is read as a body is one (`exists_isBody_of_decode`, `decode_isBody`).
-/

namespace WebServer

namespace Chunked

variable {bs line rest : Bytes} {n size : Nat}

/-! ## Size lines and chunks -/

/-- A line from which a size is read, without its line end. -/
structure IsSizeLine (line : Bytes) (size : Nat) : Prop where
  le_maxLine : line.length ≤ maxLine
  whole : Bytes.indexOf? crlf line = none
  size : sizeOf? line = some size

theorem IsSizeLine.lineLength?_eq (h : IsSizeLine line size) (rest : Bytes) :
    lineLength? (line ++ (crlf ++ rest)) = .ok (some line.length) :=
  lineLength?_append_crlf h.whole h.le_maxLine rest

/-- A line in front from which a size is read, and what is behind it. -/
theorem exists_isSizeLine (hn : lineLength? bs = .ok (some n))
    (hs : sizeOf? (bs.take n) = some size) :
    ∃ line, IsSizeLine line size ∧ line.length = n ∧
      bs = line ++ (crlf ++ bs.drop (n + 2)) := by
  obtain ⟨hsplit, hle, hwhole⟩ := of_lineLength? hn
  have hlen : (bs.take n).length = n := by
    have htwo := lineLength?_add_two_le hn
    rw [List.length_take]
    omega
  exact ⟨bs.take n, ⟨by omega, hwhole, hs⟩, hlen, hsplit⟩

/-- A chunk on the wire: its size line, and its data. -/
structure Chunk where
  line : Bytes
  data : Bytes
deriving DecidableEq

/-- The bytes of a chunk. -/
def Chunk.bytes (c : Chunk) : Bytes := c.line ++ (crlf ++ (c.data ++ crlf))

/-- A chunk has data, and its size line says how much. -/
structure Chunk.WellFormed (c : Chunk) : Prop where
  sizeLine : IsSizeLine c.line c.data.length
  ne_nil : c.data ≠ []

theorem Chunk.length_bytes (c : Chunk) :
    c.bytes.length = c.line.length + 2 + c.data.length + 2 := by
  simp only [bytes, crlf, List.length_append, List.length_cons, List.length_nil]
  omega

namespace Decoder

variable {d d' : Decoder} {rest' : Bytes} {chunks : List Chunk} {u : Nat}

/-! ## Chunks are moved over -/

/-- The decoder behind some chunks. -/
def past (d : Decoder) (chunks : List Chunk) : Decoder :=
  { d with
    pos := d.pos + (chunks.flatMap Chunk.bytes).length
    total := d.total + (chunks.flatMap Chunk.data).length
    latest := (chunks.map Chunk.data).reverse ++ d.latest }

theorem past_nil (d : Decoder) : d.past [] = d := rfl

theorem past_cons (d : Decoder) (c : Chunk) (chunks : List Chunk) :
    (d.past [c]).past chunks = d.past (c :: chunks) := by
  simp [past, Nat.add_assoc]

/-- Behind a size line a chunk is looked for. -/
theorem step_sizeLine (hd : d.inTrailers = false) (h : IsSizeLine line size) (hpos : 0 < size)
    (rest : Bytes) :
    d.step (line ++ (crlf ++ rest)) = d.chunkStep line.length size rest := by
  have hdata : (line ++ (crlf ++ rest)).drop (line.length + 2) = rest := by
    rw [← List.drop_drop, List.drop_left]
    rfl
  unfold step
  rw [h.lineLength?_eq]
  dsimp only
  rw [if_neg (by simp [hd]), List.take_left, h.size, hdata]
  obtain ⟨m, rfl⟩ : ∃ m, size = m + 1 := ⟨size - 1, by omega⟩
  rfl

/-- A size line that says zero leads into the trailer. -/
theorem step_zeroLine (hd : d.inTrailers = false) (h : IsSizeLine line 0) (rest : Bytes) :
    d.step (line ++ (crlf ++ rest)) =
      .moved { d with pos := d.pos + line.length + 2, inTrailers := true } (line.length + 2) := by
  unfold step
  rw [h.lineLength?_eq]
  dsimp only
  rw [if_neg (by simp [hd]), List.take_left, h.size]
  rfl

/-- The data of a chunk is taken, and the line end behind it. -/
theorem chunkStep_data {data : Bytes} (hlimit : d.total + data.length ≤ d.limit)
    (hword : d.pos + n + 2 + data.length + 2 < wordLimit) (htotal : d.total ≤ d.pos)
    (rest : Bytes) :
    d.chunkStep n data.length (data ++ (crlf ++ rest)) =
      .moved { d with
        pos := d.pos + n + 2 + data.length + 2
        total := d.total + data.length
        latest := data :: d.latest } (n + 2 + data.length + 2) := by
  have hdrop : (data ++ (crlf ++ rest)).drop data.length = 13 :: 10 :: rest := by
    rw [List.drop_left]
    rfl
  unfold chunkStep
  dsimp only
  rw [if_neg (by omega), if_neg (by omega), if_neg (by omega), if_neg (by omega), hdrop,
    List.take_left]
  rfl

/-- A chunk in front is decoded. -/
theorem step_chunk {c : Chunk} (hd : d.inTrailers = false) (hc : c.WellFormed)
    (hlimit : d.total + c.data.length ≤ d.limit) (hword : d.pos + c.bytes.length < wordLimit)
    (htotal : d.total ≤ d.pos) (rest : Bytes) :
    d.step (c.bytes ++ rest) = .moved (d.past [c]) c.bytes.length := by
  have hlen := c.length_bytes
  have hsplit : c.bytes ++ rest = c.line ++ (crlf ++ (c.data ++ (crlf ++ rest))) := by
    simp only [Chunk.bytes, List.append_assoc]
  have hpos : d.pos + c.line.length + 2 + c.data.length + 2 = d.pos + c.bytes.length := by omega
  rw [hsplit, step_sizeLine hd hc.sizeLine (List.length_pos_iff.2 hc.ne_nil),
    chunkStep_data hlimit (by omega) htotal, hpos, ← hlen]
  simp [past]

/-- Chunks in front are decoded one by one. -/
theorem reaches_chunks (hd : d.inTrailers = false) (hchunks : ∀ c ∈ chunks, c.WellFormed)
    (hlimit : d.total + (chunks.flatMap Chunk.data).length ≤ d.limit)
    (hword : d.pos + (chunks.flatMap Chunk.bytes).length < wordLimit) (htotal : d.total ≤ d.pos)
    (rest : Bytes) :
    Reaches d (chunks.flatMap Chunk.bytes ++ rest) (d.past chunks) rest := by
  induction chunks generalizing d with
  | nil => exact .refl d rest
  | cons c chunks ih =>
      obtain ⟨hc, hchunks⟩ := List.forall_mem_cons.1 hchunks
      rw [List.flatMap_cons, List.length_append] at hlimit hword
      have hlen := c.length_bytes
      rw [List.flatMap_cons, List.append_assoc, ← past_cons]
      refine .moved (step_chunk hd hc (by omega) (by omega) htotal _) ?_
      rw [List.drop_left]
      have hpast : (d.past [c]).pos = d.pos + c.bytes.length ∧
          (d.past [c]).total = d.total + c.data.length := by simp [past]
      obtain ⟨hpos, htot⟩ := hpast
      refine ih (d := d.past [c]) hd hchunks ?_ (by omega) (by omega)
      show (d.past [c]).total + _ ≤ d.limit
      omega

/-! ## What was moved over are chunks -/

/-- Among the chunks a step moves over a chunk, or over a size line that says zero. -/
theorem exists_chunk_of_moved (hd : d.inTrailers = false) (hs : d.step rest = .moved d' u) :
    (∃ c : Chunk, c.WellFormed ∧ rest = c.bytes ++ rest.drop u ∧ d' = d.past [c] ∧
        d.total + c.data.length ≤ d.limit) ∨
      ∃ line, IsSizeLine line 0 ∧ rest = line ++ (crlf ++ rest.drop u) ∧
        d' = { d with pos := d.pos + line.length + 2, inTrailers := true } := by
  obtain ⟨n, hn, ⟨ht, _⟩ | ⟨_, hzero, rfl, rfl⟩ | ⟨size, _, hsize, hpos, hchunk⟩⟩ :=
    of_step_eq_moved hs
  · rw [hd] at ht
    contradiction
  · obtain ⟨line, hline, hlen, hsplit⟩ := exists_isSizeLine hn hzero
    exact .inr ⟨line, hline, hsplit, by rw [hlen]⟩
  · obtain ⟨line, hline, hlen, hsplit⟩ := exists_isSizeLine hn hsize
    obtain ⟨hlimit, ⟨t, ht⟩, rfl, rfl⟩ := of_chunkStep_eq_moved hchunk
    have hsize : size ≤ (rest.drop (n + 2)).length := by
      have hle := congrArg List.length ht
      rw [List.length_drop, List.length_cons, List.length_cons] at hle
      omega
    have hdata : ((rest.drop (n + 2)).take size).length = size := by
      rw [List.length_take]
      omega
    refine .inl ⟨⟨line, (rest.drop (n + 2)).take size⟩, ⟨?_, ?_⟩, ?_, ?_, ?_⟩
    · rw [hdata]
      exact hline
    · exact List.length_pos_iff.1 (by rw [hdata]; exact hpos)
    · have hbehind : (rest.drop (n + 2)).drop size = crlf ++ rest.drop (n + 2 + size + 2) := by
        have hdrop : rest.drop (n + 2 + size + 2) = t := by
          rw [← List.drop_drop, ← List.drop_drop, ht]
          rfl
        rw [ht, hdrop]
        rfl
      have hfront := List.take_append_drop size (rest.drop (n + 2))
      rw [hbehind] at hfront
      simp only [Chunk.bytes, List.append_assoc]
      rw [hfront]
      exact hsplit
    · simp only [past, List.flatMap_singleton, Chunk.length_bytes, hlen, hdata, List.map_cons,
        List.map_nil, List.reverse_singleton, List.singleton_append]
      simp only [Nat.add_assoc]
    · rw [hdata]
      exact hlimit

/-- The decoder behind a size line that says zero, and behind some lines of the trailer. -/
def pastLines (d : Decoder) (lines : List Bytes) : Decoder :=
  { d with pos := d.pos + (endLines lines).length, inTrailers := true }

/-- The bytes that a decoder has moved over are chunks, or chunks, a size line that says zero, and
lines of a trailer. -/
theorem Reaches.exists_chunks (h : Reaches d rest d' rest') (hd : d.inTrailers = false)
    (htotal : d.total ≤ d.limit) :
    ∃ chunks : List Chunk, (∀ c ∈ chunks, c.WellFormed) ∧
      d.total + (chunks.flatMap Chunk.data).length ≤ d.limit ∧
      ((rest = chunks.flatMap Chunk.bytes ++ rest' ∧ d' = d.past chunks) ∨
        ∃ line lines, IsSizeLine line 0 ∧ (∀ l ∈ lines, IsTrailerLine l) ∧
          rest = chunks.flatMap Chunk.bytes ++ (endLines (line :: lines) ++ rest') ∧
          d' = (d.past chunks).pastLines (line :: lines)) := by
  induction h with
  | refl d rest => exact ⟨[], by simp, by simpa using htotal, .inl ⟨rfl, rfl⟩⟩
  | @moved d d₁ d' rest rest' u hs hr ih =>
      rcases exists_chunk_of_moved hd hs with
        ⟨c, hc, hsplit, rfl, hlimit⟩ | ⟨line, hline, hsplit, rfl⟩
      · have htot : (d.past [c]).total = d.total + c.data.length := by simp [past]
        obtain ⟨chunks, hchunks, hle, hcase⟩ := ih hd (by rw [htot]; exact hlimit)
        refine ⟨c :: chunks, List.forall_mem_cons.2 ⟨hc, hchunks⟩, ?_, ?_⟩
        · rw [List.flatMap_cons, List.length_append, ← Nat.add_assoc, ← htot]
          exact hle
        · rw [← past_cons, List.flatMap_cons]
          rcases hcase with ⟨hrest, hd'⟩ | ⟨line, lines, hline, hlines, hrest, hd'⟩
          · exact .inl ⟨by rw [List.append_assoc, ← hrest, ← hsplit], hd'⟩
          · exact .inr ⟨line, lines, hline, hlines,
              by rw [List.append_assoc, ← hrest, ← hsplit], hd'⟩
      · obtain ⟨lines, hlines, htrailer, rfl⟩ := hr.exists_endLines rfl
        refine ⟨[], by simp, by simpa using htotal, .inr ⟨line, lines, hline, htrailer, ?_, ?_⟩⟩
        · rw [List.flatMap_nil, List.nil_append, endLines_cons, ← hlines]
          exact hsplit
        · simp only [past_nil, pastLines, length_endLines_cons, Nat.add_assoc]

/-! ## Complete bodies -/

/-- A size line that says zero, and the lines of a trailer, are moved over. -/
theorem reaches_lines {trailer : List Bytes} (hd : d.inTrailers = false) (h : IsSizeLine line 0)
    (htrailer : ∀ l ∈ trailer, IsTrailerLine l) (rest : Bytes) :
    Reaches d (endLines (line :: trailer) ++ rest) (d.pastLines (line :: trailer)) rest := by
  have hlines := reaches_endLines
    (d := { d with pos := d.pos + line.length + 2, inTrailers := true }) rfl htrailer rest
  have hpast : { d with
      pos := d.pos + line.length + 2 + (endLines trailer).length, inTrailers := true } =
      d.pastLines (line :: trailer) := by
    simp only [pastLines, length_endLines_cons, Nat.add_assoc]
  rw [← hpast, endLines_cons]
  refine .moved (step_zeroLine hd h _) ?_
  rw [← List.drop_drop, List.drop_left]
  exact hlines

/-- The empty line behind the trailer ends the body. -/
theorem step_emptyLine (hd : d.inTrailers = true) (rest : Bytes) :
    d.step (crlf ++ rest) = .finished { d with pos := d.pos + 2 } := by
  have hline : lineLength? ([] ++ (crlf ++ rest)) = .ok (some 0) :=
    lineLength?_append_crlf (by decide) (by decide) rest
  rw [List.nil_append] at hline
  unfold step
  rw [hline]
  dsimp only
  rw [if_pos hd, if_pos rfl]

/-- A size line that says zero, the lines of a trailer and an empty line end the body. -/
theorem run_lines {trailer : List Bytes} (hd : d.inTrailers = false) (h : IsSizeLine line 0)
    (htrailer : ∀ l ∈ trailer, IsTrailerLine l) (rest : Bytes) :
    d.run (endLines (line :: trailer) ++ (crlf ++ rest)) =
      (.ok (some (d.pos + (endLines (line :: trailer) ++ crlf).length)),
        { d with
          pos := d.pos + (endLines (line :: trailer) ++ crlf).length
          inTrailers := true }) := by
  have hlength : d.pos + (endLines (line :: trailer) ++ crlf).length =
      (d.pastLines (line :: trailer)).pos + 2 := by
    rw [List.length_append, ← Nat.add_assoc]
    rfl
  rw [(reaches_lines hd h htrailer (crlf ++ rest)).run_eq,
    run_of_finished (step_emptyLine rfl rest), hlength]
  rfl

end Decoder

variable {chunks : List Chunk} {limit : Nat} {d' : Decoder}

/-- A body in chunks: the chunks, a size line that says zero, the lines of a trailer, and an empty
line. -/
structure IsBody (chunks : List Chunk) (bs : Bytes) : Prop where
  wellFormed : ∀ c ∈ chunks, c.WellFormed
  ends : ∃ line trailer, IsSizeLine line 0 ∧ (∀ l ∈ trailer, IsTrailerLine l) ∧
    bs = chunks.flatMap Chunk.bytes ++ (endLines (line :: trailer) ++ crlf)

/-- A body in chunks is read to its chunks, and what follows it is not looked at. -/
theorem decode_isBody (h : IsBody chunks bs) (hlimit : (chunks.flatMap Chunk.data).length ≤ limit)
    (hword : (chunks.flatMap Chunk.bytes).length < wordLimit) (rest : Bytes) :
    ∃ d', ({ limit } : Decoder).decode (bs ++ rest) = (.ok (some bs.length), d') ∧
      d'.chunks = chunks.map Chunk.data := by
  obtain ⟨hchunks, line, trailer, hline, htrailer, rfl⟩ := h
  have hreach := Decoder.reaches_chunks (d := { limit }) rfl hchunks (by simpa using hlimit)
    (by simpa using hword) (Nat.le_refl _) (endLines (line :: trailer) ++ (crlf ++ rest))
  have hend := Decoder.run_lines (d := ({ limit } : Decoder).past chunks) rfl hline htrailer rest
  have hpos : (({ limit } : Decoder).past chunks).pos + (endLines (line :: trailer) ++ crlf).length =
      (chunks.flatMap Chunk.bytes ++ (endLines (line :: trailer) ++ crlf)).length := by
    simp [Decoder.past]
  rw [List.append_assoc, List.append_assoc, Decoder.decode_eq_run (Nat.zero_le _), List.drop_zero,
    hreach.run_eq, hend, hpos]
  exact ⟨_, rfl, by simp [Decoder.chunks, Decoder.past]⟩

/-- What is read as a body is one. -/
theorem exists_isBody_of_decode
    (h : ({ limit } : Decoder).decode bs = (.ok (some n), d')) :
    ∃ chunks, IsBody chunks (bs.take n) ∧ (chunks.flatMap Chunk.data).length ≤ limit ∧
      d'.chunks = chunks.map Chunk.data := by
  rw [Decoder.decode_eq_run (Nat.zero_le _), List.drop_zero] at h
  obtain ⟨d₁, rest₁, hr, ⟨_, hs⟩ | ⟨_, _, hs⟩ | ⟨d₂, hf, hs⟩⟩ :=
    Decoder.exists_reaches_stop ({ limit } : Decoder) bs
  · simp [h] at hs
  · simp [h] at hs
  · obtain ⟨rfl, rfl⟩ : n = d₂.pos ∧ d' = d₂ := by simpa [h] using hs
    obtain ⟨ht, hn, rfl⟩ := Decoder.of_step_eq_finished hf
    obtain ⟨chunks, hchunks, hlimit, ⟨_, rfl⟩ | ⟨line, trailer, hline, htrailer, hsplit, rfl⟩⟩ :=
      hr.exists_chunks rfl (Nat.zero_le _)
    · contradiction
    · obtain ⟨hempty, -, -⟩ := of_lineLength? hn
      rw [List.take_zero, List.nil_append] at hempty
      refine ⟨chunks, ⟨hchunks, line, trailer, hline, htrailer, ?_⟩, by simpa using hlimit, ?_⟩
      · rw [hempty, ← List.append_assoc, ← List.append_assoc] at hsplit
        rw [hsplit, List.append_assoc, List.append_assoc, ← List.append_assoc,
          ← List.append_assoc]
        refine (List.take_left' ?_).trans (List.append_assoc _ _ _)
        simp [Decoder.pastLines, Decoder.past, crlf, Nat.add_assoc]
      · simp [Decoder.chunks, Decoder.pastLines, Decoder.past]

end Chunked

end WebServer
