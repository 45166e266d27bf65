import WebServer.Proofs.Chunked.Extent

/-!
# WebServer.Proofs.Chunked.Backlog

How many bytes a body in chunks can hold before it is complete. Each chunk but the last has a
byte of data at least, so size lines and line ends are a fixed multiple of the data, which has
a limit (`InChunks`). Lines of the trailer are charged to nothing: behind the size line of the
last chunk (`EndsChunks`) as many may follow as the sender likes.

Main statements: a run that starves has moved over so many bytes as the limit allows, or it has
starved behind whole lines of the trailer (`InChunks.of_run_none`), and behind any such
lines a run starves (`run_trailer`).
-/

namespace WebServer

namespace Chunked

variable {bs line part : Bytes} {lines : List Bytes} {n : Nat}

/-! ## Lines -/

/-- A line of a trailer: it is not empty, and ends no later than a framing line must. -/
structure IsTrailerLine (line : Bytes) : Prop where
  ne_nil : line ≠ []
  le_maxLine : line.length ≤ maxLine
  whole : Bytes.indexOf? crlf line = none

theorem isTrailerLine_of_not_mem (hne : line ≠ []) (hle : line.length ≤ maxLine)
    (h : 13 ∉ line) : IsTrailerLine line :=
  ⟨hne, hle, Bytes.indexOf?_eq_none_of_not_mem h⟩

/-- Lines, each with its line end. -/
def endLines (lines : List Bytes) : Bytes := lines.flatMap (· ++ crlf)

/-- Whether the line in front has not ended, and may still do so. -/
def IsOpenLine (part : Bytes) : Prop := lineLength? part = .ok none

theorem endLines_cons (line : Bytes) (lines : List Bytes) (rest : Bytes) :
    endLines (line :: lines) ++ rest = line ++ (crlf ++ (endLines lines ++ rest)) := by
  simp only [endLines, List.flatMap_cons, List.append_assoc]

theorem length_endLines_cons (line : Bytes) (lines : List Bytes) :
    (endLines (line :: lines)).length = line.length + 2 + (endLines lines).length := by
  simp only [endLines, List.flatMap_cons, crlf, List.length_append, List.length_cons,
    List.length_nil]

theorem length_endLines_replicate (n : Nat) (line : Bytes) :
    (endLines (List.replicate n line)).length = n * (line.length + 2) := by
  simp [endLines, crlf, List.length_flatMap]

theorem IsOpenLine.length_le (h : IsOpenLine part) : part.length ≤ maxLine := by
  unfold IsOpenLine lineLength? at h
  split at h
  · simp at h
  · split at h
    · next hd => exact List.drop_eq_nil_iff.1 (List.isEmpty_iff.1 hd)
    · contradiction

/-! ## Chunks -/

/-- How many bytes `size` bytes of data can take in chunks, the last one aside: in the worst
case each is a chunk, with a size line as long as it may be. -/
def chunksLength (size : Nat) : Nat := (maxLine + 5) * size

/-- The data of a chunk pays for its size line and line ends. -/
theorem add_le_chunksLength {total size pos : Nat} (hpos : pos ≤ chunksLength total)
    (hsize : 0 < size) (hn : n ≤ maxLine) :
    pos + n + 2 + size + 2 ≤ chunksLength (total + size) := by
  unfold chunksLength maxLine at *
  omega

theorem le_chunksLength (size : Nat) : size ≤ chunksLength size := by
  unfold chunksLength maxLine
  omega

theorem chunksLength_mono {a b : Nat} (h : a ≤ b) : chunksLength a ≤ chunksLength b :=
  Nat.mul_le_mul_left _ h

namespace Decoder

variable {d d' d₁ : Decoder} {rest rest' front : Bytes} {u : Nat}

/-- Decoding has not come to the trailer, and has moved over no more bytes than the data
allows. -/
structure InChunks (d : Decoder) : Prop where
  inTrailers : d.inTrailers = false
  pos_le : d.pos ≤ chunksLength d.total
  total_le : d.total ≤ d.limit

theorem inChunks_start (limit : Nat) : InChunks { limit } := ⟨rfl, Nat.zero_le _, Nat.zero_le _⟩

/-- A step over a chunk keeps the balance, and the size line of the last chunk is one line
more. -/
theorem InChunks.of_moved (h : d.InChunks) (hs : d.step rest = .moved d' u) :
    d'.limit = d.limit ∧
      (d'.InChunks ∨ (d'.inTrailers = true ∧ d'.pos ≤ chunksLength d.limit + maxLine + 2)) := by
  obtain ⟨hin, hpos, htotal⟩ := h
  obtain ⟨n, hn, ⟨ht, _⟩ | ⟨_, _, _, rfl⟩ | ⟨size, _, _, hsize, hchunk⟩⟩ := of_step_eq_moved hs
  · rw [hin] at ht
    contradiction
  · have hline := (of_lineLength? hn).2.1
    have hmono := chunksLength_mono htotal
    exact ⟨rfl, .inr ⟨rfl, by simp only; omega⟩⟩
  · obtain ⟨hlimit, _, _, rfl⟩ := of_chunkStep_eq_moved hchunk
    have hle := add_le_chunksLength hpos hsize (of_lineLength? hn).2.1
    exact ⟨rfl, .inl ⟨hin, hle, hlimit⟩⟩

/-- A chunk that is not all there is not longer than its size says, which the limit allows. -/
theorem of_chunkStep_eq_starved {size : Nat} {data : Bytes}
    (h : d.chunkStep n size data = .starved) :
    d.total + size ≤ d.limit ∧ data.length < size + 2 := by
  constructor
  · unfold chunkStep at h
    dsimp only at h
    split at h
    · contradiction
    split at h
    · contradiction
    · omega
  · refine Nat.lt_of_not_le fun hle => chunkStep_ne_starved hle h

/-- A step that starves in front of a chunk leaves no more bytes than the limit allows. -/
theorem InChunks.le_of_starved (h : d.InChunks) (hs : d.step rest = .starved) :
    d.pos + rest.length ≤ chunksLength d.limit + maxLine := by
  obtain ⟨hin, hpos, htotal⟩ := h
  have hmono := chunksLength_mono htotal
  cases hl : lineLength? rest with
  | error e => simp [step, hl] at hs
  | ok o =>
      cases o with
      | none =>
          have hopen := IsOpenLine.length_le hl
          omega
      | some n =>
          have hn := (of_lineLength? hl).2.1
          unfold step at hs
          rw [hl] at hs
          dsimp only at hs
          rw [if_neg (by simp [hin])] at hs
          split at hs
          · contradiction
          · contradiction
          · next size hzero _ =>
              obtain ⟨hlimit, hdata⟩ := of_chunkStep_eq_starved hs
              rw [List.length_drop] at hdata
              have hle := add_le_chunksLength hpos (Nat.pos_of_ne_zero hzero) hn
              have hmono' := chunksLength_mono hlimit
              omega

/-! ## The trailer -/

/-- Bytes that end behind the size line of the last chunk. -/
def EndsChunks (d : Decoder) (front : Bytes) : Prop :=
  ∃ d₁ rest₁ d', Reaches d front d₁ rest₁ ∧ d₁.inTrailers = false ∧
    d₁.step rest₁ = .moved d' rest₁.length ∧ d'.inTrailers = true

/-- A line of the trailer is skipped. -/
theorem step_trailerLine (hd : d.inTrailers = true) (h : IsTrailerLine line) (rest : Bytes) :
    d.step (line ++ (crlf ++ rest)) =
      .moved { d with pos := d.pos + line.length + 2 } (line.length + 2) := by
  unfold step
  rw [lineLength?_append_crlf h.whole h.le_maxLine]
  dsimp only
  rw [if_pos hd, if_neg (mt List.length_eq_zero_iff.1 h.ne_nil)]

/-- In a trailer a step starves only for a line end. -/
theorem isOpenLine_of_starved (hd : d.inTrailers = true) (hs : d.step rest = .starved) :
    IsOpenLine rest := by
  unfold step at hs
  split at hs
  · contradiction
  · assumption
  · rw [if_pos hd] at hs
    dsimp only at hs
    split at hs <;> contradiction

/-- In a trailer decoding goes on behind each line. -/
theorem reaches_endLines (hd : d.inTrailers = true) (h : ∀ line ∈ lines, IsTrailerLine line)
    (rest : Bytes) :
    Reaches d (endLines lines ++ rest) { d with pos := d.pos + (endLines lines).length } rest := by
  induction lines generalizing d with
  | nil => exact .refl d rest
  | cons line lines ih =>
      obtain ⟨hline, hlines⟩ := List.forall_mem_cons.1 h
      have hlater := ih (d := { d with pos := d.pos + line.length + 2 }) hd hlines
      rw [endLines_cons, length_endLines_cons, ← Nat.add_assoc, ← Nat.add_assoc]
      refine .moved (step_trailerLine hd hline _) ?_
      rw [← List.drop_drop, List.drop_left]
      exact hlater

/-- In a trailer decoding has moved over lines. -/
theorem Reaches.exists_endLines (h : Reaches d rest d' rest') (hd : d.inTrailers = true) :
    ∃ lines, rest = endLines lines ++ rest' ∧ (∀ line ∈ lines, IsTrailerLine line) ∧
      d' = { d with pos := d.pos + (endLines lines).length } := by
  induction h with
  | refl d rest => exact ⟨[], rfl, by simp, rfl⟩
  | @moved d d₁ d' rest rest' u hs _ ih =>
      obtain ⟨n, hn, ⟨_, hz, rfl, rfl⟩ | ⟨ht, _⟩ | ⟨_, ht, _⟩⟩ := of_step_eq_moved hs
      · obtain ⟨lines, hlines, hall, rfl⟩ := ih hd
        obtain ⟨hsplit, hle, hwhole⟩ := of_lineLength? hn
        have hlen : (rest.take n).length = n := by
          have htwo := lineLength?_add_two_le hn
          rw [List.length_take]
          omega
        refine ⟨rest.take n :: lines, ?_,
          List.forall_mem_cons.2 ⟨⟨?_, by omega, hwhole⟩, hall⟩, ?_⟩
        · rw [endLines_cons, ← hlines, ← hsplit]
        · rw [Ne, ← List.length_eq_zero_iff, hlen]
          exact hz
        · rw [length_endLines_cons, hlen]
          simp only [Nat.add_assoc]
      · rw [hd] at ht
        contradiction
      · rw [hd] at ht
        contradiction

/-- Behind the last chunk and any lines of a trailer a run starves in an open line. -/
theorem run_trailer (hfront : d.EndsChunks front) (hlines : ∀ line ∈ lines, IsTrailerLine line)
    (hpart : IsOpenLine part) : ((d.run (front ++ (endLines lines ++ part))).1) = .ok none := by
  obtain ⟨d₁, rest₁, d₂, hreach, _, hs, ht⟩ := hfront
  have hmoved : Reaches d₁ (rest₁ ++ (endLines lines ++ part))
      { d₂ with pos := d₂.pos + (endLines lines).length } part := by
    refine .moved (step_append_of_moved hs _) ?_
    rw [List.drop_left]
    exact reaches_endLines ht hlines part
  have hstarved : step { d₂ with pos := d₂.pos + (endLines lines).length } part = .starved := by
    unfold step
    rw [hpart]
  rw [(hreach.append _).run_eq, hmoved.run_eq, run_of_starved hstarved]

/-! ## Runs -/

/-- A step needs the bytes it moves over, and no others. -/
theorem step_take (hs : d.step rest = .moved d' u) : d.step (rest.take u) = .moved d' u := by
  have hle := (used_of_step hs).2
  rw [← List.take_append_drop u rest] at hs
  exact step_of_append hs (by rw [List.length_take]; omega)

/-- A place that is reached lies among the chunks, or behind whole lines of the trailer. -/
theorem InChunks.of_reaches (h : d.InChunks) (hr : Reaches d rest d' rest') :
    (d'.InChunks ∧ d'.limit = d.limit) ∨
      ∃ front lines, rest = front ++ (endLines lines ++ rest') ∧ d.EndsChunks front ∧
        d.pos + front.length ≤ chunksLength d.limit + maxLine + 2 ∧
        (∀ line ∈ lines, IsTrailerLine line) ∧ d'.inTrailers = true := by
  induction hr with
  | refl d rest => exact .inl ⟨h, rfl⟩
  | @moved d d₁ d' rest rest' u hs hr ih =>
      have hpos := pos_of_step hs
      have hu := (used_of_step hs).2
      have htake := step_take hs
      have hlen : (rest.take u).length = u := by
        rw [List.length_take]
        omega
      obtain ⟨hlimit, hin | ⟨ht, hle⟩⟩ := h.of_moved hs
      · rw [← hlimit]
        rcases ih hin with hchunks | ⟨front, lines, hsplit, hfront, hle, hrest⟩
        · exact .inl hchunks
        · refine .inr ⟨rest.take u ++ front, lines, ?_, ?_, ?_, hrest⟩
          · rw [List.append_assoc, ← hsplit, List.take_append_drop]
          · obtain ⟨d₂, rest₂, d₃, hreach, hlast⟩ := hfront
            refine ⟨d₂, rest₂, d₃, .moved (step_append_of_moved htake front) ?_, hlast⟩
            rw [List.drop_append_of_le_length (by omega), List.drop_of_length_le (by omega)]
            exact hreach
          · rw [List.length_append]
            omega
      · obtain ⟨lines, hsplit, hlines, rfl⟩ := hr.exists_endLines ht
        refine .inr ⟨rest.take u, lines, ?_, ?_, by omega, hlines, ht⟩
        · rw [← hsplit, List.take_append_drop]
        · exact ⟨d, rest.take u, d₁, .refl d _, h.inTrailers, by rw [htake, hlen], ht⟩

/-- A run that starves has moved over no more bytes than the limit allows, or has starved in
an open line, behind whole lines of the trailer. -/
theorem InChunks.of_run_none (h : d.InChunks) (hrun : (d.run rest).1 = .ok none) :
    d.pos + rest.length ≤ chunksLength d.limit + maxLine ∨
      ∃ front lines part, rest = front ++ (endLines lines ++ part) ∧ d.EndsChunks front ∧
        d.pos + front.length ≤ chunksLength d.limit + maxLine + 2 ∧
        (∀ line ∈ lines, IsTrailerLine line) ∧ IsOpenLine part := by
  obtain ⟨d₁, rest₁, hr, ⟨hs, _⟩ | ⟨_, _, hs⟩ | ⟨_, _, hs⟩⟩ := exists_reaches_stop d rest
  · rcases h.of_reaches hr with ⟨hin, hlimit⟩ | ⟨front, lines, hsplit, hfront, hle, hlines, ht⟩
    · obtain ⟨c, hc, rfl, hpos⟩ := hr.drop
      have hle := hin.le_of_starved hs
      rw [List.length_drop, hlimit] at hle
      exact .inl (by omega)
    · exact .inr ⟨front, lines, rest₁, hsplit, hfront, hle, hlines, isOpenLine_of_starved ht hs⟩
  · simp [hs] at hrun
  · simp [hs] at hrun

end Decoder

end Chunked

end WebServer
