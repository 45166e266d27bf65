import WebServer.Proofs.Chunked.Grammar
import WebServer.Proofs.Chunked.Resume

/-!
# WebServer.Proofs.Chunked.Arithmetic

The chunk decoder on machine words. Sizes, offsets and limits are words, and what is taken of a
buffer must lie in it. Two sums are tested by the decoder itself, and refused as a malformed chunk
when no word holds them: the data so far with the next chunk, and the end of the next chunk. The
others are not, and neither are the bounds of what is taken; `checkedDecode` is the decoder with a
test at each of them, and has no answer where one fails.

Main statements: a test fails in one place only, behind the end of a chunk whose size leaves room
in a word for its data and none for the line end behind it (`checkedDecode_eq`, `Overruns`), and
how that carries over to a body that arrives piece by piece
(`serve_inRange_unless_overruns`).
-/

namespace WebServer

namespace Chunked

variable {buf bs body : Bytes} {limit m n i j size : Nat}

/-! ## Words and slices -/

/-- The sum of two words, if a word holds it. -/
def sum? (m n : Nat) : Option Nat := if m + n < wordLimit then some (m + n) else none

/-- The bytes of a buffer from offset `i` up to offset `j`, if it has them. -/
def slice? (buf : Bytes) (i j : Nat) : Option Bytes :=
  if i ≤ j ∧ j ≤ buf.length then some ((buf.drop i).take (j - i)) else none

theorem sum?_of_lt (h : m + n < wordLimit) : sum? m n = some (m + n) := if_pos h

theorem sum?_of_le (h : wordLimit ≤ m + n) : sum? m n = none := if_neg (by omega)

theorem eq_add_of_sum? {k : Nat} (h : sum? m n = some k) : k = m + n := by
  unfold sum? at h
  split at h
  · exact (Option.some.inj h).symm
  · contradiction

theorem of_slice? (h : slice? buf i j = some bs) :
    (i ≤ j ∧ j ≤ buf.length) ∧ bs = (buf.drop i).take (j - i) := by
  unfold slice? at h
  split at h
  · next hin => exact ⟨hin, (Option.some.inj h).symm⟩
  · contradiction

theorem slice?_of_le (hij : i ≤ j) (hj : j ≤ buf.length) :
    slice? buf i j = some ((buf.drop i).take (j - i)) := if_pos ⟨hij, hj⟩

namespace Decoder

variable {d d' : Decoder} {rest : Bytes} {u : Nat}

/-! ## The decoder with all tests -/

/-- Decodes a chunk of `size` bytes of data that starts at offset `start`. -/
def checkedChunkStep (d : Decoder) (start size : Nat) (buf : Bytes) : Option Step :=
  match sum? d.total size with
  | none => some (.failed .invalidChunk)
  | some total =>
      if d.limit < total then some (.failed (.bodyTooLarge d.limit))
      else
        match sum? start size with
        | none => some (.failed .invalidChunk)
        | some stop => do
            let next ← sum? stop 2
            if buf.length < next then return .starved
            let lineEnd ← slice? buf stop next
            if lineEnd ≠ crlf then return .failed .invalidChunk
            let data ← slice? buf start stop
            return .moved { d with pos := next, total, latest := data :: d.latest } (next - d.pos)

/-- Decodes one chunk, or one line of the trailer, of the bytes from `pos` on. -/
def checkedStep (d : Decoder) (buf : Bytes) : Option Step := do
  let rest ← slice? buf d.pos buf.length
  match lineLength? rest with
  | .error e => return .failed e
  | .ok none => return .starved
  | .ok (some n) =>
      if d.inTrailers then
        let used ← sum? n 2
        let next ← sum? d.pos used
        let d' := { d with pos := next }
        return if n = 0 then .finished d' else .moved d' (next - d.pos)
      else
        let stop ← sum? d.pos n
        let line ← slice? buf d.pos stop
        match sizeOf? line with
        | none => return .failed .invalidChunk
        | some size =>
            let start ← sum? stop 2
            if size = 0 then
              return .moved { d with pos := start, inTrailers := true } (start - d.pos)
            d.checkedChunkStep start size buf

/-- A step whose sums and slices are in range. -/
def Step.inRange? : Step → Option Step
  | .failed .outOfRange => none
  | s => some s

/-- A chunk whose offsets are words is decided by the two bytes behind its data. -/
theorem chunkStep_of_lt {data : Bytes} (htotal : d.total + size < wordLimit)
    (hlimit : d.total + size ≤ d.limit) (hnext : d.pos + n + 2 + size + 2 < wordLimit) :
    d.chunkStep n size data =
      if data.length < size + 2 then .starved
      else if (data.drop size).take 2 ≠ crlf then .failed .invalidChunk
      else .moved { d with
        pos := d.pos + n + 2 + size + 2
        total := d.total + size
        latest := data.take size :: d.latest } (n + 2 + size + 2) := by
  have hlen : (data.drop size).length = data.length - size := List.length_drop
  unfold chunkStep
  dsimp only
  rw [if_neg (by omega), if_neg (by omega), if_neg (by omega), if_neg (by omega)]
  match hbehind : data.drop size with
  | [] =>
      rw [hbehind, List.length_nil] at hlen
      rw [if_pos (by omega)]
  | [a] =>
      rw [hbehind, List.length_singleton] at hlen
      rw [if_pos (by omega)]
      split <;> simp_all
  | a :: b :: t =>
      rw [hbehind, List.length_cons, List.length_cons] at hlen
      rw [if_neg (by omega)]
      by_cases hab : a = 13 ∧ b = 10
      · obtain ⟨rfl, rfl⟩ := hab
        rfl
      · have hne : (a :: b :: t).take 2 ≠ crlf := by simpa [crlf] using hab
        rw [if_pos hne]
        split <;> simp_all

/-- A chunk is decoded as it is with all tests, and is not where its line end leaves the word. -/
theorem checkedChunkStep_eq (hstart : d.pos + n + 2 ≤ buf.length) :
    d.checkedChunkStep (d.pos + n + 2) size buf =
      (d.chunkStep n size (buf.drop (d.pos + n + 2))).inRange? := by
  unfold checkedChunkStep
  rcases Nat.lt_or_ge (d.total + size) wordLimit with htotal | htotal
  swap
  · rw [sum?_of_le htotal, chunkStep, if_pos htotal]
    rfl
  rw [sum?_of_lt htotal]
  dsimp only
  rcases Nat.lt_or_ge d.limit (d.total + size) with hlimit | hlimit
  · rw [if_pos hlimit, chunkStep, if_neg (by omega), if_pos hlimit]
    rfl
  rw [if_neg (by omega)]
  rcases Nat.lt_or_ge (d.pos + n + 2 + size) wordLimit with hstop | hstop
  swap
  · rw [sum?_of_le hstop, chunkStep, if_neg (by omega), if_neg (by omega), if_pos hstop]
    rfl
  rw [sum?_of_lt hstop]
  simp only [bind, Option.bind, pure]
  -- the one sum that is not refused as a malformed chunk
  rcases Nat.lt_or_ge (d.pos + n + 2 + size + 2) wordLimit with hnext | hnext
  swap
  · rw [sum?_of_le hnext, chunkStep, if_neg (by omega), if_neg (by omega), if_neg (by omega),
      if_pos hnext]
    rfl
  rw [sum?_of_lt hnext, chunkStep_of_lt htotal hlimit hnext, List.length_drop, List.drop_drop]
  dsimp only
  by_cases hshort : buf.length < d.pos + n + 2 + size + 2
  · rw [if_pos hshort, if_pos (by omega)]
    rfl
  · have hused : d.pos + n + 2 + size + 2 - d.pos = n + 2 + size + 2 := by omega
    rw [if_neg hshort, if_neg (by omega), slice?_of_le (by omega) (by omega),
      slice?_of_le (by omega) (by omega), Nat.add_sub_cancel_left, Nat.add_sub_cancel_left, hused]
    dsimp only
    split <;> rfl

/-- A step that is made with all tests is the step, and none is made when the decoder says that an
offset leaves the word. -/
theorem checkedStep_eq (hpos : d.pos ≤ buf.length) (hbuf : buf.length < wordLimit) :
    d.checkedStep buf = (d.step (buf.drop d.pos)).inRange? := by
  have hrest : (buf.drop d.pos).take (buf.length - d.pos) = buf.drop d.pos :=
    List.take_of_length_le (Nat.le_of_eq List.length_drop)
  unfold checkedStep step
  rw [slice?_of_le hpos (Nat.le_refl _), hrest]
  simp only [bind, Option.bind, pure]
  cases hl : lineLength? (buf.drop d.pos) with
  | error e =>
      obtain ⟨rfl, -⟩ := lineLength?_eq_error hl
      rfl
  | ok o =>
      cases o with
      | none => rfl
      | some n =>
          have hle := lineLength?_add_two_le hl
          rw [List.length_drop] at hle
          have hused : d.pos + n + 2 - d.pos = n + 2 := by omega
          dsimp only
          by_cases ht : d.inTrailers = true
          · have hnext : d.pos + (n + 2) = d.pos + n + 2 := by omega
            rw [if_pos ht, if_pos ht, sum?_of_lt (by omega)]
            dsimp only
            rw [sum?_of_lt (by omega)]
            dsimp only
            rw [hnext, hused]
            split <;> rfl
          · rw [if_neg ht, if_neg ht, sum?_of_lt (by omega)]
            dsimp only
            rw [slice?_of_le (by omega) (by omega), Nat.add_sub_cancel_left]
            dsimp only
            cases sizeOf? ((buf.drop d.pos).take n) with
            | none => rfl
            | some size =>
                dsimp only
                rw [sum?_of_lt (by omega)]
                dsimp only
                rw [hused]
                cases size with
                | zero => rfl
                | succ size =>
                    have hdata : (buf.drop d.pos).drop (n + 2) = buf.drop (d.pos + n + 2) := by
                      rw [List.drop_drop, Nat.add_assoc]
                    rw [if_neg (by omega), hdata]
                    exact checkedChunkStep_eq (by omega)

/-! ## Runs with all tests -/

theorem pos_of_checkedChunkStep {start : Nat}
    (h : d.checkedChunkStep start size buf = some (.moved d' u)) :
    start < d'.pos ∧ d'.pos ≤ buf.length := by
  unfold checkedChunkStep at h
  split at h
  · simp at h
  split at h
  · simp at h
  split at h
  · simp at h
  · next stop hstop =>
      obtain ⟨next, hnext, h⟩ := Option.bind_eq_some_iff.1 h
      have hstop := eq_add_of_sum? hstop
      have hnext := eq_add_of_sum? hnext
      split at h
      · simp at h
      obtain ⟨_, _, h⟩ := Option.bind_eq_some_iff.1 h
      split at h
      · simp at h
      obtain ⟨_, _, h⟩ := Option.bind_eq_some_iff.1 h
      obtain ⟨rfl, -⟩ := Step.moved.inj (Option.some.inj h)
      exact ⟨by simp only; omega, by simp only; omega⟩

/-- A step that is made with all tests gets on, and stays in the buffer. -/
theorem pos_of_checkedStep (h : d.checkedStep buf = some (.moved d' u)) :
    d.pos < d'.pos ∧ d'.pos ≤ buf.length := by
  obtain ⟨rest, hrest, h⟩ := Option.bind_eq_some_iff.1 h
  obtain ⟨hpos, rfl⟩ := of_slice? hrest
  split at h
  · simp at h
  · simp at h
  · next n hn =>
      have hle := lineLength?_add_two_le hn
      rw [List.length_take, List.length_drop] at hle
      split at h
      · obtain ⟨used, hused, h⟩ := Option.bind_eq_some_iff.1 h
        obtain ⟨next, hnext, h⟩ := Option.bind_eq_some_iff.1 h
        obtain rfl := eq_add_of_sum? hused
        obtain rfl := eq_add_of_sum? hnext
        split at h
        · simp at h
        · obtain ⟨rfl, -⟩ := Step.moved.inj (Option.some.inj h)
          exact ⟨by simp only; omega, by simp only; omega⟩
      · obtain ⟨stop, hstop, h⟩ := Option.bind_eq_some_iff.1 h
        obtain ⟨line, _, h⟩ := Option.bind_eq_some_iff.1 h
        obtain rfl := eq_add_of_sum? hstop
        split at h
        · simp at h
        · obtain ⟨start, hstart, h⟩ := Option.bind_eq_some_iff.1 h
          obtain rfl := eq_add_of_sum? hstart
          split at h
          · obtain ⟨rfl, -⟩ := Step.moved.inj (Option.some.inj h)
            exact ⟨by simp only; omega, by simp only; omega⟩
          · obtain ⟨hlt, hle⟩ := pos_of_checkedChunkStep h
            exact ⟨by omega, hle⟩

/-- Decodes what a body holds so far, with all tests. -/
def checkedDecode (d : Decoder) (buf : Bytes) :
    Option (Except ParseError (Option Nat) × Decoder) :=
  match _h : d.checkedStep buf with
  | none => none
  | some .starved => some (.ok none, d)
  | some (.failed e) => some (.error e, d)
  | some (.finished d') => some (.ok (some d'.pos), d')
  | some (.moved d' _) => d'.checkedDecode buf
termination_by buf.length - d.pos
decreasing_by
  have := pos_of_checkedStep ‹d.checkedStep buf = some (.moved _ _)›
  omega

/-- An answer to which all sums and slices were in range. -/
def inRange? (r : Except ParseError (Option Nat) × Decoder) :
    Option (Except ParseError (Option Nat) × Decoder) :=
  if r.1 = .error .outOfRange then none else some r

theorem Step.of_inRange?_eq_none {s : Step} (h : s.inRange? = none) :
    s = .failed .outOfRange := by
  unfold inRange? at h
  split at h
  · rfl
  · contradiction

theorem Step.of_inRange?_eq_some {s t : Step} (h : s.inRange? = some t) :
    s = t ∧ t ≠ .failed .outOfRange := by
  unfold inRange? at h
  split at h
  · contradiction
  · next hne =>
      obtain rfl := Option.some.inj h
      exact ⟨rfl, hne⟩

/-- Decoding with all tests is decoding, and comes to nothing when an offset leaves the word. -/
theorem checkedDecode_eq (hpos : d.pos ≤ buf.length) (hbuf : buf.length < wordLimit) :
    d.checkedDecode buf = inRange? (d.decode buf) := by
  fun_induction checkedDecode d buf with
  | case1 d h =>
      rw [checkedStep_eq hpos hbuf] at h
      rw [decode_eq_run hpos, run_of_failed (Step.of_inRange?_eq_none h)]
      rfl
  | case2 d h =>
      rw [checkedStep_eq hpos hbuf] at h
      rw [decode_eq_run hpos, run_of_starved (Step.of_inRange?_eq_some h).1]
      rfl
  | case3 d e h =>
      rw [checkedStep_eq hpos hbuf] at h
      obtain ⟨hs, hne⟩ := Step.of_inRange?_eq_some h
      rw [decode_eq_run hpos, run_of_failed hs, inRange?, if_neg (by simpa using hne)]
  | case4 d d' h =>
      rw [checkedStep_eq hpos hbuf] at h
      rw [decode_eq_run hpos, run_of_finished (Step.of_inRange?_eq_some h).1]
      rfl
  | case5 d d' u h ih =>
      have hpos' := (pos_of_checkedStep h).2
      rw [checkedStep_eq hpos hbuf] at h
      have hs := (Step.of_inRange?_eq_some h).1
      rw [ih hpos', decode_eq_run hpos, decode_eq_run hpos', run_of_moved hs,
        List.drop_drop, pos_of_step hs]

/-! ## Chunks whose line end leaves the word -/

/-- The word is left behind a chunk that the limit allows and that a word has room for, but not for
the line end behind it. -/
theorem of_chunkStep_eq_outOfRange {data : Bytes}
    (h : d.chunkStep n size data = .failed .outOfRange) :
    d.total + size ≤ d.limit ∧ d.pos + n + 2 + size < wordLimit ∧
      wordLimit ≤ d.pos + n + 2 + size + 2 := by
  unfold chunkStep at h
  dsimp only at h
  split at h
  · simp at h
  split at h
  · simp at h
  split at h
  · simp at h
  split at h
  · exact ⟨by omega, by omega, by omega⟩
  · split at h <;> simp at h

theorem of_step_eq_outOfRange (h : d.step rest = .failed .outOfRange) :
    d.inTrailers = false ∧ ∃ n size, lineLength? rest = .ok (some n) ∧
      sizeOf? (rest.take n) = some size ∧ 0 < size ∧ d.total + size ≤ d.limit ∧
      d.pos + n + 2 + size < wordLimit ∧ wordLimit ≤ d.pos + n + 2 + size + 2 := by
  unfold step at h
  split at h
  · next e hl => simp [(lineLength?_eq_error hl).1] at h
  · simp at h
  · next n hn =>
      split at h
      · dsimp only at h
        split at h <;> simp at h
      · next ht =>
          split at h
          · simp at h
          · simp at h
          · next size hzero hsize =>
              exact ⟨by simpa using ht, n, size, hn, hsize, Nat.pos_of_ne_zero hzero,
                of_chunkStep_eq_outOfRange h⟩

end Decoder

/-- Bytes that hold, behind whole chunks, the size line of a further chunk which the limit allows
and which ends in the word, while the line end behind it does not. -/
def Overruns (limit : Nat) (bs : Bytes) : Prop :=
  ∃ (chunks : List Chunk) (line : Bytes) (size : Nat) (rest : Bytes),
    (∀ c ∈ chunks, c.WellFormed) ∧ IsSizeLine line size ∧ 0 < size ∧
      bs = chunks.flatMap Chunk.bytes ++ (line ++ (crlf ++ rest)) ∧
      (chunks.flatMap Chunk.data).length + size ≤ limit ∧
      (chunks.flatMap Chunk.bytes).length + line.length + 2 + size < wordLimit ∧
      wordLimit ≤ (chunks.flatMap Chunk.bytes).length + line.length + 2 + size + 2

/-- It takes a limit that is as large as a word, but for the bytes that are there. -/
theorem Overruns.le (h : Overruns limit bs) : wordLimit ≤ bs.length + limit + 2 := by
  obtain ⟨chunks, line, size, rest, -, -, -, rfl, hlimit, -, hle⟩ := h
  simp only [crlf, List.length_append, List.length_cons, List.length_nil]
  omega

/-- A new decoder leaves the word on such bytes, and on no others. -/
theorem decode_eq_outOfRange_iff (hlimit : limit < wordLimit) (hbs : bs.length < wordLimit) :
    (({ limit } : Decoder).decode bs).1 = .error .outOfRange ↔ Overruns limit bs := by
  rw [Decoder.decode_eq_run (Nat.zero_le _), List.drop_zero]
  constructor
  · intro h
    obtain ⟨d₁, rest₁, hr, ⟨_, hs⟩ | ⟨e, hf, hs⟩ | ⟨_, _, hs⟩⟩ :=
      Decoder.exists_reaches_stop ({ limit } : Decoder) bs
    · simp [hs] at h
    · obtain rfl : e = .outOfRange := by simpa [hs] using h
      obtain ⟨ht, n, size, hn, hsize, hpos, htotal, hstop, hnext⟩ :=
        Decoder.of_step_eq_outOfRange hf
      obtain ⟨line, hline, rfl, hsplit⟩ := exists_isSizeLine hn hsize
      obtain ⟨chunks, hchunks, -, ⟨hbytes, rfl⟩ | ⟨_, _, _, _, _, rfl⟩⟩ :=
        hr.exists_chunks rfl (Nat.zero_le _)
      · simp only [Decoder.past, Nat.zero_add] at htotal hstop hnext
        exact ⟨chunks, line, size, _, hchunks, hline, hpos, by rw [← hsplit]; exact hbytes, htotal,
          hstop, hnext⟩
      · contradiction
    · simp [hs] at h
  · rintro ⟨chunks, line, size, rest, hchunks, hline, hpos, rfl, htotal, hstop, hnext⟩
    rw [List.length_append] at hbs
    have hreach := Decoder.reaches_chunks (d := { limit }) rfl hchunks
      (by simp only [Nat.zero_add]; omega) (by simp only [Nat.zero_add]; omega) (Nat.le_refl _)
      (line ++ (crlf ++ rest))
    have hfailed : (({ limit } : Decoder).past chunks).step (line ++ (crlf ++ rest)) =
        .failed .outOfRange := by
      rw [Decoder.step_sizeLine rfl hline hpos]
      simp only [Decoder.chunkStep, Decoder.past, Nat.zero_add]
      rw [if_neg (by omega), if_neg (by omega), if_neg (by omega), if_pos (by omega)]
    rw [hreach.run_eq, Decoder.run_of_failed hfailed]

/-! ## A body that arrives -/

namespace Decoder

variable {d : Decoder} {more : Bytes} {s : Served} {calls : List Call}

/-- Decoding stays in the bytes that are there. -/
theorem pos_decode_le (hpos : d.pos ≤ bs.length) : (d.decode bs).2.pos ≤ bs.length := by
  rw [decode_eq_run hpos]
  obtain ⟨d₁, rest₁, hr, hstop⟩ := exists_reaches_stop d (bs.drop d.pos)
  obtain ⟨c, hc, rfl, hpos₁⟩ := hr.drop
  rw [List.length_drop] at hc
  obtain ⟨_, hs⟩ | ⟨_, _, hs⟩ | ⟨d₂, hf, hs⟩ := hstop
  · rw [hs]
    simp only
    omega
  · rw [hs]
    simp only
    omega
  · obtain ⟨-, hn, rfl⟩ := of_step_eq_finished hf
    have hle := lineLength?_add_two_le hn
    rw [List.length_drop, List.length_drop] at hle
    rw [hs]
    simp only
    omega

/-- In a trailer no offset leaves the word. -/
theorem decode_ne_outOfRange (ht : d.inTrailers = true) (hpos : d.pos ≤ bs.length) :
    (d.decode bs).1 ≠ .error .outOfRange := by
  rw [decode_eq_run hpos]
  intro h
  obtain ⟨d₁, rest₁, hr, ⟨_, hs⟩ | ⟨e, hf, hs⟩ | ⟨_, _, hs⟩⟩ :=
    exists_reaches_stop d (bs.drop d.pos)
  · simp [hs] at h
  · obtain rfl : e = .outOfRange := by simpa [hs] using h
    obtain ⟨lines, -, -, rfl⟩ := hr.exists_endLines ht
    rw [(of_step_eq_outOfRange hf).1] at ht
    contradiction
  · simp [hs] at h

/-- Whether an offset leaves the word does not depend on how often the decoder was asked before,
nor on what it answered. -/
theorem decode_outOfRange_resume (hpos : d.pos ≤ bs.length) (more : Bytes) :
    ((d.decode bs).2.decode (bs ++ more)).1 = .error .outOfRange ↔
      (d.decode (bs ++ more)).1 = .error .outOfRange := by
  have hle := pos_decode_le hpos
  have hgrown : (bs ++ more).length = bs.length + more.length := List.length_append
  rw [decode_eq_run hpos] at hle ⊢
  obtain ⟨d₁, rest₁, hr, hstop⟩ := exists_reaches_stop d (bs.drop d.pos)
  have hfrom : (d.run (bs.drop d.pos)).2 = d₁ →
      d₁.decode (bs ++ more) = d.decode (bs ++ more) := by
    rintro rfl
    obtain ⟨c, hc, hrest, hpos₁⟩ := hr.drop
    rw [decode_eq_run (by omega), decode_eq_run (by omega), List.drop_append_of_le_length hpos,
      List.drop_append_of_le_length hle, (hr.append more).run_eq, hrest, List.drop_drop, hpos₁]
  obtain ⟨_, hs⟩ | ⟨_, _, hs⟩ | ⟨d₂, hf, hs⟩ := hstop
  · rw [hs, hfrom (by rw [hs])]
  · rw [hs, hfrom (by rw [hs])]
  · -- the body is complete: it stays so, and what follows is taken for lines of a trailer
    have hdone := decode_append_of_some ((decode_eq_run hpos).trans hs) more
    rw [hs] at hle ⊢
    have htrailer : d₂.inTrailers = true := by
      obtain ⟨ht, -, rfl⟩ := of_step_eq_finished hf
      exact ht
    have hne : (d₂.decode (bs ++ more)).1 ≠ .error .outOfRange :=
      decode_ne_outOfRange htrailer (by simp only at hle; omega)
    simp only [hdone, hne, reduceCtorEq]

/-- One more call, with all tests. -/
def Served.checkedCall (body : Bytes) (s : Served) : Call → Option Served
  | .decode n => do
      let (answer, decoder) ← s.decoder.checkedDecode (body.take n)
      return { s with answers := s.answers ++ [answer], decoder }
  | .take => some (s.call body .take)

/-- Calls of a new decoder, one after the other, with all tests. -/
def checkedServe (limit : Nat) (body : Bytes) (calls : List Call) : Option Served :=
  calls.foldlM (Served.checkedCall body) { decoder := { limit } }

/-- The decoder stands in the first `m` bytes, and on more of them an offset leaves the word when
it does for a new decoder. -/
structure StandsIn (limit : Nat) (body : Bytes) (m : Nat) (d : Decoder) : Prop where
  pos_le : d.pos ≤ (body.take m).length
  agrees : ∀ n, m ≤ n → ((d.decode (body.take n)).1 = .error .outOfRange ↔
    (({ limit } : Decoder).decode (body.take n)).1 = .error .outOfRange)

theorem standsIn_start (limit : Nat) (body : Bytes) : StandsIn limit body 0 { limit } :=
  ⟨Nat.zero_le _, fun _ _ => Iff.rfl⟩

theorem StandsIn.pos_take_le (h : StandsIn limit body m d) (hle : m ≤ n) :
    d.pos ≤ (body.take n).length := by
  have hpos := h.pos_le
  rw [List.length_take] at hpos ⊢
  omega

theorem StandsIn.decode (h : StandsIn limit body m d) (hle : m ≤ n) :
    StandsIn limit body n (d.decode (body.take n)).2 := by
  have hpos := h.pos_take_le hle
  refine ⟨pos_decode_le hpos, fun n' hn' => ?_⟩
  have hgrown : body.take n' = body.take n ++ (body.drop n).take (n' - n) := by
    rw [← List.take_add, Nat.add_sub_cancel' hn']
  rw [← h.agrees n' (Nat.le_trans hle hn'), hgrown]
  exact decode_outOfRange_resume hpos _

/-- Taking chunks away does not matter. -/
theorem StandsIn.take (h : StandsIn limit body m d) : StandsIn limit body m d.takeChunks.2 := by
  refine ⟨h.pos_le, fun n hn => ?_⟩
  have hbehind : d.takeChunks.2.behind d.chunks = d := by simp [takeChunks, behind, chunks]
  have hsame := decode_behind d.chunks d.takeChunks.2 (body.take n)
  rw [hbehind] at hsame
  rw [← h.agrees n hn, hsame]

/-- One more decoding is made with all tests, or overruns the word as a new decoder does. -/
theorem StandsIn.checkedCall (h : StandsIn limit body m s.decoder) (hlimit : limit < wordLimit)
    (hbody : body.length < wordLimit) (hle : m ≤ n) :
    (Overruns limit (body.take n) ∧ s.checkedCall body (.decode n) = none) ∨
      (¬ Overruns limit (body.take n) ∧
        (s.decoder.decode (body.take n)).1 ≠ .error .outOfRange ∧
        s.checkedCall body (.decode n) = some (s.call body (.decode n))) := by
  have hpos : s.decoder.pos ≤ (body.take n).length := h.pos_take_le hle
  have hword : (body.take n).length < wordLimit := by
    rw [List.length_take]
    omega
  have hagrees := (h.agrees n hle).trans (decode_eq_outOfRange_iff hlimit hword)
  have hchecked := checkedDecode_eq hpos hword
  unfold inRange? at hchecked
  by_cases hover : Overruns limit (body.take n)
  · rw [if_pos (hagrees.2 hover)] at hchecked
    exact .inl ⟨hover, by simp [Served.checkedCall, hchecked]⟩
  · have hne := mt hagrees.1 hover
    rw [if_neg hne] at hchecked
    exact .inr ⟨hover, hne, by simp [Served.checkedCall, hchecked, Served.call]⟩

theorem checkedServe_concat (limit : Nat) (body : Bytes) (calls : List Call) (c : Call) :
    checkedServe limit body (calls ++ [c]) =
      (checkedServe limit body calls).bind (Served.checkedCall body · c) := by
  simp [checkedServe, List.foldlM_append]

/-- Ever longer beginnings of a body are decoded with all tests as they are without, until one
overruns the word. -/
theorem checkedServe_cases (hlimit : limit < wordLimit) (hbody : body.length < wordLimit)
    (hgrows : (calls.filterMap Call.arrived?).Pairwise (· ≤ ·)) :
    ((∃ n ∈ calls.filterMap Call.arrived?, Overruns limit (body.take n)) ∧
        checkedServe limit body calls = none) ∨
      ((∀ n ∈ calls.filterMap Call.arrived?, ¬ Overruns limit (body.take n)) ∧
        checkedServe limit body calls = some (serve limit body calls) ∧
        (∀ a ∈ (serve limit body calls).answers, a ≠ .error .outOfRange) ∧
        ∃ m, (∀ n, (∀ l ∈ calls.filterMap Call.arrived?, l ≤ n) → m ≤ n) ∧
          StandsIn limit body m (serve limit body calls).decoder) := by
  -- after the calls so far, either a test has failed for good, or the decoder stands in bytes that
  -- no later call falls short of
  induction calls using List.reverseRecOn with
  | nil => exact .inr ⟨by simp, rfl, by simp [serve], 0, fun n _ => Nat.zero_le n,
      standsIn_start limit body⟩
  | append_singleton calls c ih =>
      rw [List.filterMap_append, List.pairwise_append] at hgrows
      rw [List.filterMap_append, checkedServe_concat, serve_concat]
      obtain ⟨⟨n, hn, hover⟩, hnone⟩ | ⟨hfits, hsome, hanswers, m, hle, hstands⟩ := ih hgrows.1
      · exact .inl ⟨⟨n, List.mem_append_left _ hn, hover⟩, by rw [hnone]; rfl⟩
      rw [hsome]
      cases c with
      | take =>
          refine .inr ⟨?_, rfl, hanswers, m, ?_, hstands.take⟩
          · simpa [Call.arrived?] using hfits
          · simpa [Call.arrived?] using hle
      | decode n =>
          have hmn : m ≤ n := hle n fun l hl => hgrows.2.2 l hl n (by simp [Call.arrived?])
          have hmem : n ∈ calls.filterMap Call.arrived? ++ [Call.decode n].filterMap Call.arrived? :=
            by simp [Call.arrived?]
          obtain ⟨hover, hnone⟩ | ⟨hin, hne, hcall⟩ := hstands.checkedCall hlimit hbody hmn
          · exact .inl ⟨⟨n, hmem, hover⟩, hnone⟩
          · refine .inr ⟨?_, hcall, ?_, n, fun n' hn' => hn' n hmem, hstands.decode hmn⟩
            · exact List.forall_mem_append.2 ⟨hfits, List.forall_mem_singleton.2 hin⟩
            · exact List.forall_mem_append.2 ⟨hanswers, List.forall_mem_singleton.2 hne⟩

/-- **The decoder stays within words and slices, but for one sum.** Ever longer beginnings of a body
are decoded, and chunks taken away in between, with a limit and a body that words count. All tests
pass until a beginning holds a chunk whose data ends in the word while its line end does not, and
they fail there. Before that the tests change nothing, every decoding gets an answer, and the
decoder stands in the bytes it was given. It takes a limit that is as large as a word, but for the
body. -/
theorem serve_inRange_unless_overruns (limit : Nat) (body : Bytes) (calls : List Call)
    (hlimit : limit < wordLimit) (hbody : body.length < wordLimit)
    (hgrows : (calls.filterMap Call.arrived?).Pairwise (· ≤ ·)) :
    (checkedServe limit body calls = none ↔
        ∃ n ∈ calls.filterMap Call.arrived?, Overruns limit (body.take n)) ∧
      (∀ s, checkedServe limit body calls = some s →
        s = serve limit body calls ∧ (∀ a ∈ s.answers, a ≠ .error .outOfRange) ∧
          ∀ n, (∀ m ∈ calls.filterMap Call.arrived?, m ≤ n) →
            s.decoder.pos ≤ (body.take n).length) ∧
      (limit + body.length + 2 < wordLimit → checkedServe limit body calls ≠ none) := by
  obtain ⟨⟨n, hn, hover⟩, hnone⟩ | ⟨hfits, hsome, hanswers, m, hle, hstands⟩ :=
    checkedServe_cases hlimit hbody hgrows
  · refine ⟨iff_of_true hnone ⟨n, hn, hover⟩, by simp [hnone], fun hsmall => ?_⟩
    have hbig := hover.le
    rw [List.length_take] at hbig
    omega
  · have hsafe : checkedServe limit body calls ≠ none := by simp [hsome]
    refine ⟨iff_of_false hsafe fun ⟨n, hn, hover⟩ => hfits n hn hover, fun s hs => ?_,
      fun _ => hsafe⟩
    obtain rfl : serve limit body calls = s := Option.some.inj (hsome.symm.trans hs)
    exact ⟨rfl, hanswers, fun n hn => hstands.pos_take_le (hle n hn)⟩

/-- The largest limit, and a size line that comes within a line end of it. -/
theorem serve_overruns_at_largest_limit :
    let body := utf8 "FFFFFFFFFFFFFFED\r\n"
    let calls : List Call := [.decode 16, .take, .decode 18]
    (wordLimit - 1 < wordLimit ∧ body.length < wordLimit ∧
        (calls.filterMap Call.arrived?).Pairwise (· ≤ ·)) ∧
      checkedServe (wordLimit - 1) body calls = none ∧
      checkedServe 8 body calls = some (serve 8 body calls) := by
  intro body calls
  have hbody : body = utf8 "FFFFFFFFFFFFFFED" ++ (crlf ++ []) := by decide
  have hgrows : (calls.filterMap Call.arrived?).Pairwise (· ≤ ·) := by decide
  have hover : Overruns (wordLimit - 1) (body.take 18) :=
    ⟨[], utf8 "FFFFFFFFFFFFFFED", 18446744073709551597, [], by simp,
      ⟨by decide, by decide, by decide +kernel⟩, by decide, by decide, by decide, by decide,
      by decide⟩
  have hword : (wordLimit - 1 < wordLimit) ∧ 8 < wordLimit ∧ body.length < wordLimit := by decide
  obtain ⟨hlargest, hsmall, hlen⟩ := hword
  have hfails := (serve_inRange_unless_overruns (wordLimit - 1) body calls hlargest hlen hgrows).1
  obtain ⟨-, hsame, hpasses⟩ := serve_inRange_unless_overruns 8 body calls hsmall hlen hgrows
  obtain ⟨s, hs⟩ := Option.ne_none_iff_exists'.1 (hpasses (by decide))
  exact ⟨⟨hlargest, hlen, hgrows⟩, hfails.2 ⟨18, by decide, hover⟩, hs.trans (by rw [(hsame s hs).1])⟩

end Decoder

end Chunked

end WebServer
