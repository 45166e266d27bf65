import WebServer.Proofs.Chunked.RoundTrip
import WebServer.Proofs.Traversal

/-!
# WebServer.Proofs.Chunked.Encoding

Bodies in chunks with a trailer, as they are written and as they are read. What looks like framing
inside a chunk is data, since the size line says how far the data goes.

A body that is larger than it may be is refused before the bytes that make it so have come: the
size line of the first chunk that crosses the limit is enough (`step_sizeLine_of_large`).

Main statement: `decode_encodeBody`.
-/

namespace WebServer

namespace Chunked

variable {bs part : Bytes} {chunks trailer before : List Bytes} {limit n : Nat}

/-! ## Bodies that are too large -/

/-- A size that crosses the limit is refused, whether or not the data is there. -/
theorem Decoder.step_sizeLine_of_large {d : Decoder} {size : Nat} (hd : d.inTrailers = false)
    (hpos : 0 < size) (hword : d.total + size < wordLimit) (hlarge : d.limit < d.total + size)
    (rest : Bytes) :
    d.step (hexText size ++ (crlf ++ rest)) = .failed (.bodyTooLarge d.limit) := by
  rw [step_sizeLine hd (isSizeLine_hexText (by omega)) hpos]
  unfold chunkStep
  dsimp only
  rw [if_neg (by omega), if_pos (by omega)]

theorem length_flatten_le (chunks : List Bytes) :
    chunks.flatten.length ≤ (chunks.flatMap encode).length := by
  induction chunks with
  | nil => exact Nat.le_refl _
  | cons c chunks ih =>
      rw [List.flatten_cons, List.flatMap_cons, List.length_append, List.length_append,
        length_encode]
      omega

/-- Behind chunks that keep the limit, a size line that crosses it is the end. -/
theorem decode_of_large {size : Nat} (hne : ∀ c ∈ before, c ≠ [])
    (hle : before.flatten.length ≤ limit) (hlarge : limit < before.flatten.length + size)
    (hword : (before.flatMap encode).length + size < wordLimit) (rest : Bytes) :
    decode (before.flatMap encode ++ (hexText size ++ (crlf ++ rest))) limit =
      .error (.bodyTooLarge limit) := by
  have hflat := length_flatten_le before
  have hreach := Decoder.reaches_flatMap_encode (d := { limit }) rfl hne (by simpa using hle)
    (by simp only [Nat.zero_add]; omega) (Nat.le_refl _) (hexText size ++ (crlf ++ rest))
  have hfailed := Decoder.step_sizeLine_of_large
    (d := ⟨limit, 0 + (before.flatMap encode).length, 0 + before.flatten.length, false,
      before.reverse ++ []⟩)
    rfl (by omega : 0 < size) (by simp only; omega) (by simp only; omega) rest
  have hrun := hreach.run_eq.trans (Decoder.run_of_failed hfailed)
  rw [decode, Decoder.decode_eq_run (Nat.zero_le _), List.drop_zero, hrun]

/-- What is larger than it may be is refused, and so is what ends with the size line of the first
chunk that crosses the limit. -/
theorem decode_encodeBody_of_large (trailer : List Bytes) (hne : ∀ c ∈ chunks, c ≠ [])
    (hword : (chunks.flatMap encode).length < wordLimit) (hlarge : limit < chunks.flatten.length) :
    (∀ rest, decode (encodeBody chunks trailer ++ rest) limit = .error (.bodyTooLarge limit)) ∧
      ∃ before c behind, chunks = before ++ c :: behind ∧ before.flatten.length ≤ limit ∧
        limit < before.flatten.length + c.length ∧
        decode (before.flatMap encode ++ (hexText c.length ++ crlf)) limit =
          .error (.bodyTooLarge limit) := by
  rw [← List.flatMap_id] at hlarge
  obtain ⟨before, c, behind, rfl, hle, hcross⟩ := exists_crossing hlarge
  rw [List.flatMap_id] at hle hcross
  rw [id_eq] at hcross
  have hlength := length_encode c
  rw [List.flatMap_append, List.flatMap_cons, List.length_append, List.length_append] at hword
  have hrefused := decode_of_large (fun c' hc' => hne c' (List.mem_append_left _ hc')) hle hcross
    (by omega)
  refine ⟨fun rest => ?_, before, c, behind, rfl, hle, hcross, ?_⟩
  · have hall := hrefused (c ++ (crlf ++ (behind.flatMap encode ++
      (endLines ([48] :: trailer) ++ (crlf ++ rest)))))
    simpa only [encodeBody, encode, List.flatMap_append, List.flatMap_cons,
      List.append_assoc] using hall
  · simpa only [List.append_nil] using hrefused []

/-! ## Bodies that are not all there -/

/-- A body that is read takes no more bytes than there are, and is read whatever follows. -/
theorem of_decode (h : decode bs limit = .ok (chunks, n)) :
    n ≤ bs.length ∧ ∀ more, decode (bs ++ more) limit = .ok (chunks, n) := by
  unfold decode at h ⊢
  split at h
  · contradiction
  · contradiction
  · next k d heq =>
      obtain ⟨rfl, rfl⟩ : d.chunks = chunks ∧ k = n := by simpa using h
      constructor
      · have hrun := heq
        rw [Decoder.decode_eq_run (Nat.zero_le _), List.drop_zero] at hrun
        simpa using (Decoder.le_of_run hrun).2
      · intro more
        rw [Decoder.decode_append_of_some heq more]

/-- Bytes that make a body only as a whole make none in part. -/
theorem exists_error_of_prefix (hpart : part <+: bs) (hne : part ≠ bs)
    (hwhole : ∀ chunks n, decode bs limit = .ok (chunks, n) → bs.length ≤ n) :
    ∃ e, decode part limit = .error e := by
  cases hdecode : decode part limit with
  | error e => exact ⟨e, rfl⟩
  | ok read =>
      obtain ⟨hn, hmore⟩ := of_decode hdecode
      obtain ⟨more, rfl⟩ := hpart
      have hall := hwhole _ _ (hmore more)
      exact absurd ((List.prefix_append part more).eq_of_length_le (Nat.le_trans hall hn)) hne

/-- **A body in chunks is read as it was written.** With its data within the limit it is read to its
chunks, whatever follows it. No less than all of it is ever read as a body. With more data than the
limit it is refused, and so is what ends with the size line of the first chunk that crosses the
limit. The chunks as they are written are no longer than a word can count, like all bytes that are
held in memory (`hword`). -/
theorem decode_encodeBody (limit : Nat) (hne : ∀ c ∈ chunks, c ≠ [])
    (htrailer : ∀ line ∈ trailer, IsTrailerLine line)
    (hword : (chunks.flatMap encode).length < wordLimit) :
    (chunks.flatten.length ≤ limit → ∀ rest,
      decode (encodeBody chunks trailer ++ rest) limit =
        .ok (chunks, (encodeBody chunks trailer).length)) ∧
    (∀ part, part <+: encodeBody chunks trailer → part ≠ encodeBody chunks trailer →
      ∃ e, decode part limit = .error e) ∧
    (limit < chunks.flatten.length →
      (∀ rest, decode (encodeBody chunks trailer ++ rest) limit = .error (.bodyTooLarge limit)) ∧
      ∃ before c behind, chunks = before ++ c :: behind ∧ before.flatten.length ≤ limit ∧
        limit < before.flatten.length + c.length ∧
        decode (before.flatMap encode ++ (hexText c.length ++ crlf)) limit =
          .error (.bodyTooLarge limit)) := by
  refine ⟨fun hle => decode_encodeBody_append hne htrailer hle hword, fun part hpart hne' => ?_,
    decode_encodeBody_of_large trailer hne hword⟩
  refine exists_error_of_prefix hpart hne' fun chunks' n hread => ?_
  rcases Nat.lt_or_ge limit chunks.flatten.length with hlt | hle
  · have hrefused := (decode_encodeBody_of_large trailer hne hword hlt).1 []
    rw [List.append_nil, hread] at hrefused
    contradiction
  · have hall := decode_encodeBody_append hne htrailer hle hword []
    rw [List.append_nil, hread] at hall
    obtain ⟨-, rfl⟩ : chunks' = chunks ∧ n = (encodeBody chunks trailer).length := by
      simpa using hall
    exact Nat.le_refl _

/-- A chunk that looks like the end of a body, and one more chunk. -/
theorem decode_encodeBody_of_framing :
    let chunks : List Bytes := [[13, 10, 48, 13, 10, 13, 10], [97]]
    let trailer : List Bytes := [[97, 58, 98]]
    let body := encodeBody chunks trailer
    ((∀ c ∈ chunks, c ≠ []) ∧ (∀ line ∈ trailer, IsTrailerLine line) ∧
        (chunks.flatMap encode).length < wordLimit) ∧
      decode body 8 = .ok (chunks, body.length) ∧
      (∃ e, decode (body.take 10) 8 = .error e) ∧ decode body 7 = .error (.bodyTooLarge 7) := by
  intro chunks trailer body
  have hne : ∀ c ∈ chunks, c ≠ [] := by decide
  have htrailer : ∀ line ∈ trailer, IsTrailerLine line := by
    simp only [trailer, List.forall_mem_singleton]
    exact isTrailerLine_of_not_mem (by decide) (by decide) (by decide)
  have hword : (chunks.flatMap encode).length < wordLimit := by decide +kernel
  obtain ⟨hwithin, hpart, -⟩ := decode_encodeBody 8 hne htrailer hword
  obtain ⟨-, -, hbeyond⟩ := decode_encodeBody 7 hne htrailer hword
  have hwhole := hwithin (by decide) []
  have hlarge := (hbeyond (by decide)).1 []
  rw [List.append_nil] at hwhole hlarge
  exact ⟨⟨hne, htrailer, hword⟩, hwhole, hpart _ (List.take_prefix _ _) (by decide +kernel), hlarge⟩

end Chunked

end WebServer
