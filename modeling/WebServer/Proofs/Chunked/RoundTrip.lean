import WebServer.Proofs.Chunked.Grammar
import WebServer.Proofs.Text.Line
import WebServer.Proofs.Text.Numeral

/-!
# WebServer.Proofs.Chunked.RoundTrip

A body that is sent in chunks is decoded to the chunks it was sent in, whatever lines its trailer
has and whatever follows it (`decode_encodeBody_append`).
-/

namespace WebServer

namespace Chunked

variable {n : Nat} {data rest : Bytes}

/-! ## Size lines -/

theorem isPlainDigit_of_mem {c : Char} (h : c ∈ Nat.toDigits 16 n) : isPlainDigit c = true :=
  of_mem_toDigits (by decide) (by decide) h

theorem not_mem_hexText (n : Nat) : 13 ∉ hexText n := by
  refine not_mem_utf8 fun h => ?_
  rw [String.toList_ofList] at h
  have hplain := isPlainDigit_of_mem h
  contradiction

/-- A size line is much shorter than a line may be. -/
theorem length_hexText_le (hn : n < wordLimit) : (hexText n).length ≤ 16 := by
  have hascii : ∀ c ∈ Nat.toDigits 16 n, c.toNat < 128 := by
    intro c hc
    have hplain := isPlainDigit_of_mem hc
    simp only [isPlainDigit, Bool.and_eq_true, decide_eq_true_eq] at hplain
    exact hplain.1.1.1.1
  rw [hexText, length_utf8_of_lt hascii, Nat.length_toDigits_le_iff (by decide) (by decide)]
  exact Nat.lt_of_lt_of_le hn (by decide)

theorem sizeOf?_hexText (hn : n < wordLimit) : sizeOf? (hexText n) = some n := by
  have hsplit : (Nat.toDigits 16 n).splitOn ';' = [Nat.toDigits 16 n] := by
    rw [List.splitOn_eq_splitOnP]
    refine List.splitOnP_eq_singleton fun c hc => ?_
    have hplain := isPlainDigit_of_mem hc
    simp only [isPlainDigit, Bool.and_eq_true, bne_iff_ne] at hplain
    simpa using hplain.1.2
  rw [sizeOf?, hexText, text?_utf8, Option.bind_some, String.toList_ofList, hsplit]
  show unsigned? 16 (trim (Nat.toDigits 16 n)) = some n
  rw [trim_toDigits (by decide) (by decide), unsigned?_toDigits (by decide) (by decide) hn]

/-- A size is read from the line it is written on. -/
theorem isSizeLine_hexText (hn : n < wordLimit) : IsSizeLine (hexText n) n where
  le_maxLine := Nat.le_trans (length_hexText_le hn) (by decide)
  whole := Bytes.indexOf?_eq_none_of_not_mem (not_mem_hexText n)
  size := sizeOf?_hexText hn

/-- The size line of the last chunk. -/
theorem isSizeLine_zero : IsSizeLine [48] 0 where
  le_maxLine := by decide
  whole := by decide
  size := by decide +kernel

/-! ## Chunks -/

theorem length_encode (data : Bytes) :
    (encode data).length = (hexText data.length).length + 2 + data.length + 2 := by
  simp only [encode, crlf, List.length_append, List.length_cons, List.length_nil]

/-- The chunk that data is sent in. -/
def Chunk.ofData (data : Bytes) : Chunk := ⟨hexText data.length, data⟩

theorem Chunk.bytes_ofData (data : Bytes) : (ofData data).bytes = encode data := by
  simp only [bytes, ofData, encode, List.append_assoc]

theorem Chunk.wellFormed_ofData (hne : data ≠ []) (hn : data.length < wordLimit) :
    (ofData data).WellFormed :=
  ⟨isSizeLine_hexText hn, hne⟩

section

variable {pieces : List Bytes}

theorem flatMap_bytes_ofData (pieces : List Bytes) :
    (pieces.map Chunk.ofData).flatMap Chunk.bytes = pieces.flatMap encode := by
  rw [List.flatMap_map]
  exact congrArg (List.flatMap · pieces) (funext Chunk.bytes_ofData)

theorem map_data_ofData (pieces : List Bytes) :
    (pieces.map Chunk.ofData).map Chunk.data = pieces := by
  rw [List.map_map]
  exact List.map_id pieces

theorem flatMap_data_ofData (pieces : List Bytes) :
    (pieces.map Chunk.ofData).flatMap Chunk.data = pieces.flatten := by
  rw [List.flatMap_def, map_data_ofData]

/-- Data that is sent in chunks makes chunks as they are read. -/
theorem wellFormed_of_mem_map_ofData (hne : ∀ p ∈ pieces, p ≠ [])
    (hword : (pieces.flatMap encode).length < wordLimit) :
    ∀ c ∈ pieces.map Chunk.ofData, c.WellFormed := by
  rw [List.forall_mem_map]
  intro p hp
  refine Chunk.wellFormed_ofData (hne p hp) (Nat.lt_of_le_of_lt ?_ hword)
  have hpart := (List.sublist_flatten_of_mem (List.mem_map_of_mem (f := encode) hp)).length_le
  rw [← List.flatMap_def, length_encode] at hpart
  omega

end

/-- A body in chunks with a trailer: the chunks, the size line of the last chunk, the lines of the
trailer, and an empty line. -/
def encodeBody (pieces trailer : List Bytes) : Bytes :=
  pieces.flatMap encode ++ (endLines ([48] :: trailer) ++ crlf)

namespace Decoder

variable {d d' : Decoder} {pieces trailer : List Bytes}

/-- Chunks in front are decoded one by one. -/
theorem reaches_flatMap_encode (hd : d.inTrailers = false) (hne : ∀ p ∈ pieces, p ≠ [])
    (hlimit : d.total + pieces.flatten.length ≤ d.limit)
    (hword : d.pos + (pieces.flatMap encode).length < wordLimit) (htotal : d.total ≤ d.pos)
    (rest : Bytes) :
    Reaches d (pieces.flatMap encode ++ rest)
      { d with
        pos := d.pos + (pieces.flatMap encode).length
        total := d.total + pieces.flatten.length
        latest := pieces.reverse ++ d.latest } rest := by
  have hreach := reaches_chunks hd (wellFormed_of_mem_map_ofData hne (by omega))
    (by rwa [flatMap_data_ofData]) (by rwa [flatMap_bytes_ofData]) htotal rest
  rwa [past, flatMap_bytes_ofData, flatMap_data_ofData, map_data_ofData] at hreach

/-- A body with a trailer is decoded to its chunks, and what follows it is not looked at. -/
theorem decode_encodeBody_append {limit : Nat} (hne : ∀ p ∈ pieces, p ≠ [])
    (htrailer : ∀ line ∈ trailer, IsTrailerLine line) (hlimit : pieces.flatten.length ≤ limit)
    (hword : (pieces.flatMap encode).length < wordLimit) (rest : Bytes) :
    ∃ d', ({ limit } : Decoder).decode (encodeBody pieces trailer ++ rest) =
        (.ok (some (encodeBody pieces trailer).length), d') ∧ d'.chunks = pieces := by
  have hbody : IsBody (pieces.map Chunk.ofData) (encodeBody pieces trailer) :=
    ⟨wellFormed_of_mem_map_ofData hne hword, [48], trailer, isSizeLine_zero, htrailer,
      by rw [flatMap_bytes_ofData]; rfl⟩
  rw [← flatMap_data_ofData] at hlimit
  rw [← flatMap_bytes_ofData] at hword
  have hdecode := decode_isBody hbody hlimit hword rest
  rwa [map_data_ofData] at hdecode

/-- **Chunks are read as they are written**: a body in chunks is decoded to its chunks,
and what follows it is not looked at. -/
theorem decode_flatMap_encode {limit : Nat} (hne : ∀ p ∈ pieces, p ≠ [])
    (hlimit : pieces.flatten.length ≤ limit)
    (hword : (pieces.flatMap encode).length < wordLimit) (rest : Bytes) :
    ∃ d', ({ limit } : Decoder).decode (pieces.flatMap encode ++ (lastChunk ++ rest)) =
        (.ok (some (pieces.flatMap encode ++ lastChunk).length), d') ∧ d'.chunks = pieces := by
  rw [← List.append_assoc]
  exact decode_encodeBody_append hne (List.forall_mem_nil _) hlimit hword rest

end Decoder

variable {pieces trailer : List Bytes} {limit : Nat}

theorem decode_encodeBody_append (hne : ∀ p ∈ pieces, p ≠ [])
    (htrailer : ∀ line ∈ trailer, IsTrailerLine line) (hlimit : pieces.flatten.length ≤ limit)
    (hword : (pieces.flatMap encode).length < wordLimit) (rest : Bytes) :
    decode (encodeBody pieces trailer ++ rest) limit =
      .ok (pieces, (encodeBody pieces trailer).length) := by
  obtain ⟨d', hdecode, hchunks⟩ :=
    Decoder.decode_encodeBody_append hne htrailer hlimit hword rest
  rw [decode, hdecode]
  dsimp only
  rw [hchunks]

/-- A body in chunks, and nothing behind it, is taken as a whole. -/
theorem decode_chunks (hne : ∀ p ∈ pieces, p ≠ []) (hlimit : pieces.flatten.length ≤ limit)
    (hword : (pieces.flatMap encode ++ lastChunk).length < wordLimit) :
    decode (pieces.flatMap encode ++ lastChunk) limit =
      .ok (pieces, (pieces.flatMap encode ++ lastChunk).length) := by
  have hlt : (pieces.flatMap encode).length < wordLimit := by
    rw [List.length_append] at hword
    omega
  have hall := decode_encodeBody_append hne (List.forall_mem_nil _) hlimit hlt []
  rwa [List.append_nil] at hall

end Chunked

end WebServer
