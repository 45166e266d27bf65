import WebServer.Proofs.Chunked.Growth
import WebServer.Proofs.Traversal
import WebServer.Request.Parser

/-!
# WebServer.Proofs.Request.Stage

The stages of reading a request: the end of the head, its text, the framing of
the body, the body, and the form in it. What each stage answers is read off here
once, and so is which errors it has: a request is incomplete only for want of a
blank line or of bytes of the body (`parse_eq_incomplete_iff`), and too large a
head is an error of the first stage alone (`head_of_parse_headersTooLarge`).
-/

namespace WebServer

instance decEqExcept {ε α : Type} [DecidableEq ε] [DecidableEq α] :
    DecidableEq (Except ε α)
  | .ok a, .ok b => decidable_of_iff (a = b) (by simp)
  | .error e, .error e' => decidable_of_iff (e = e') (by simp)
  | .ok _, .error _ => isFalse (by simp)
  | .error _, .ok _ => isFalse (by simp)

namespace Request

variable {buf : Bytes} {limits : Limits} {e : ParseError}

/-! ## The head -/

namespace Head

variable {h : Head} {n start : Nat}

theorem findEnd_zero (buf : Bytes) : findEnd buf 0 = Bytes.indexOf? blankLine buf := by
  unfold findEnd
  simp only [Nat.zero_min, Nat.zero_sub, List.drop_zero]
  cases Bytes.indexOf? blankLine buf <;> simp

/-- A buffer without a blank line is no head: it is too long, or not all there. -/
theorem parse_of_findEnd_none (h : findEnd buf 0 = none) :
    parse buf limits =
      if limits.maxHeader < buf.length then .error (.headersTooLarge limits.maxHeader)
      else .error .incomplete := by
  unfold parse
  rw [h]

/-- A head that has ended is read from the bytes in front of its blank line. -/
theorem parse_of_findEnd_some (h : findEnd buf 0 = some n) :
    parse buf limits =
      if limits.maxHeader < n then .error (.headersTooLarge limits.maxHeader)
      else
        match text? (buf.take n) with
        | none => .error .invalidRequest
        | some text => (parseText text.toList).map fun h => (h, n + 4) := by
  unfold parse
  split
  · next hnone => rw [h] at hnone; contradiction
  · next k hk =>
      obtain rfl : k = n := Option.some.inj (hk.symm.trans h)
      rfl

/-- A head that has been read ends with a blank line. -/
theorem findEnd_of_parse (hp : parse buf limits = .ok (h, start)) :
    findEnd buf 0 = some (start - 4) ∧ 4 ≤ start ∧ start ≤ buf.length ∧
      start - 4 ≤ limits.maxHeader := by
  cases hf : findEnd buf 0 with
  | none =>
      rw [parse_of_findEnd_none hf] at hp
      split at hp <;> contradiction
  | some n =>
      rw [parse_of_findEnd_some hf] at hp
      rw [findEnd_zero] at hf
      have hle := Bytes.add_length_le_of_indexOf? hf
      simp only [blankLine, List.length_cons, List.length_nil] at hle
      split at hp
      · contradiction
      · next hmax =>
          split at hp
          · contradiction
          · next text ht =>
              cases hx : parseText text.toList with
              | error e => simp [hx, Except.map] at hp
              | ok h' =>
                  simp only [hx, Except.map, Except.ok.injEq, Prod.mk.injEq] at hp
                  obtain ⟨_, rfl⟩ := hp
                  exact ⟨by simp, by omega, by omega, by omega⟩

/-- A line that is no request line. -/
theorem error_of_parseLine {line : List Char} (h : parseLine line = .error e) :
    e = .invalidRequest ∨ e = .invalidMethod ∨ e = .invalidVersion := by
  unfold parseLine at h
  split at h
  · split at h
    · exact .inr (.inl (by simpa using h.symm))
    · split at h
      · split at h
        · exact .inl (by simpa using h.symm)
        · contradiction
      · exact .inr (.inr (by simpa using h.symm))
  · exact .inl (by simpa using h.symm)

/-- A line that is no header field. -/
theorem error_of_parseField {line : List Char} (h : parseField line = .error e) :
    e = .invalidHeader := by
  unfold parseField at h
  split at h
  · simpa using h.symm
  · dsimp only at h
    split at h
    · simpa using h.symm
    · contradiction

theorem error_of_parseFields {lines : List (List Char)}
    (h : lines.mapM parseField = .error e) : e = .invalidHeader := by
  obtain ⟨line, _, hline⟩ := exists_of_mapM_eq_error h
  exact error_of_parseField hline

/-- The text of a head is refused for a line of it. -/
theorem error_of_parseText {text : List Char} (h : parseText text = .error e) :
    e = .invalidRequest ∨ e = .invalidMethod ∨ e = .invalidVersion ∨ e = .invalidHeader := by
  unfold parseText at h
  split at h
  · exact .inl (by simpa using h.symm)
  · split at h
    · next e' hl =>
        obtain rfl : e' = e := by simpa using h
        rcases error_of_parseLine hl with he | he | he
        · exact .inl he
        · exact .inr (.inl he)
        · exact .inr (.inr (.inl he))
    · split at h
      · next e' hf =>
          obtain rfl : e' = e := by simpa using h
          exact .inr (.inr (.inr (error_of_parseFields hf)))
      · contradiction

/-- A head that has ended within the limit is refused for its text. -/
theorem error_of_parse (hf : findEnd buf 0 = some n) (hn : n ≤ limits.maxHeader)
    (h : parse buf limits = .error e) :
    e = .invalidRequest ∨ e = .invalidMethod ∨ e = .invalidVersion ∨ e = .invalidHeader := by
  rw [parse_of_findEnd_some hf, if_neg (by omega)] at h
  split at h
  · exact .inl (by simpa using h.symm)
  · next text _ =>
      cases hx : parseText text.toList with
      | error e' =>
          obtain rfl : e' = e := by simpa [hx, Except.map] using h
          exact error_of_parseText hx
      | ok h' => simp [hx, Except.map] at h

end Head

/-! ## The body -/

namespace Framing

variable {f f' : Framing} {d d' : Chunked.Decoder} {body : Bytes} {n : Nat}

/-! What each framing answers is read off once here; the facts about growing
bodies below are then those of `List.take` and of the chunk decoder. -/

theorem decode_length_eq_some_iff {k : Nat} :
    ((Framing.length k).decode buf).1 = .ok (some (body, n)) ↔
      k ≤ buf.length ∧ body = buf.take k ∧ n = k := by
  simp only [decode, List.length_take]
  by_cases hk : k ≤ buf.length
  · rw [if_neg (by omega)]
    simp [hk, eq_comm]
  · rw [if_pos (by omega)]
    simp [hk]

theorem decode_chunked_eq_some_iff :
    ((Framing.chunked d).decode buf).1 = .ok (some (body, n)) ↔
      ∃ d', d.decode buf = (.ok (some n), d') ∧ body = d'.chunks.flatten := by
  simp only [decode]
  rcases d.decode buf with ⟨(_ | _ | k), d'⟩
  · simp
  · simp
  · constructor
    · intro h
      simp only [Chunked.Decoder.takeChunks, Except.ok.injEq, Option.some.injEq,
        Prod.mk.injEq] at h
      obtain ⟨rfl, rfl⟩ := h
      exact ⟨d', rfl, rfl⟩
    · rintro ⟨_, h, rfl⟩
      simp only [Prod.mk.injEq, Except.ok.injEq, Option.some.injEq] at h
      obtain ⟨rfl, rfl⟩ := h
      rfl

theorem decode_chunked_eq_none_iff :
    (Framing.chunked d).decode buf = (.ok none, f') ↔
      ∃ d', d.decode buf = (.ok none, d') ∧ f' = .chunked d' := by
  simp only [decode]
  rcases d.decode buf with ⟨(_ | _ | k), d'⟩ <;> simp [eq_comm]

theorem decode_chunked_eq_error_iff {e : ParseError} :
    ((Framing.chunked d).decode buf).1 = .error e ↔ (d.decode buf).1 = .error e := by
  simp only [decode]
  rcases d.decode buf with ⟨(_ | _ | k), d'⟩ <;> simp

/-- Header fields that do not say where the body ends. -/
theorem error_of_ofHeaders {h : Headers} (hf : ofHeaders h limits = .error e) :
    e = .unsupportedTransferEncoding ∨ e = .invalidContentLength ∨
      e = .bodyTooLarge limits.maxBody := by
  unfold ofHeaders at hf
  split at hf
  · split at hf
    · contradiction
    · exact .inl (by simpa using hf.symm)
  · split at hf
    · next e' hd =>
        obtain rfl : e' = e := by simpa using hf
        refine .inr (.inl ?_)
        unfold declaredLength at hd
        split at hd
        · contradiction
        · simpa using hd.symm
        · split at hd
          · contradiction
          · simpa using hd.symm
    · split at hf
      · exact .inr (.inr (by simpa using hf.symm))
      · contradiction

/-- A length is what the fields declare, when they name no transfer coding and it is within the
limit. -/
theorem of_ofHeaders_length {h : Headers} {k : Nat} (hf : ofHeaders h limits = .ok (.length k)) :
    h.contains "Transfer-Encoding" = false ∧ declaredLength h = .ok k ∧ k ≤ limits.maxBody := by
  unfold ofHeaders at hf
  split at hf
  · split at hf <;> simp at hf
  · next hnone =>
      split at hf
      · contradiction
      · next n hn =>
          split at hf
          · contradiction
          · obtain rfl := Framing.length.inj (Except.ok.inj hf)
            exact ⟨by simpa using hnone, hn, by omega⟩

/-- Chunks are what the last transfer coding asks for, and they are decoded from the start. -/
theorem of_ofHeaders_chunked {h : Headers} (hf : ofHeaders h limits = .ok (.chunked d)) :
    h.contains "Transfer-Encoding" = true ∧ isChunked h = true ∧
      d = { limit := limits.maxBody } := by
  unfold ofHeaders at hf
  split at hf
  · next hsome =>
      split at hf
      · next hc => exact ⟨hsome, hc, (Framing.chunked.inj (Except.ok.inj hf)).symm⟩
      · contradiction
  · split at hf
    · contradiction
    · split at hf <;> simp at hf

/-- A body is refused by the chunk decoder only. -/
theorem error_of_decode (h : (f.decode buf).1 = .error e) :
    e = .invalidChunk ∨ (∃ n, e = .bodyTooLarge n) ∨ e = .outOfRange := by
  cases f with
  | length k => simp [decode] at h
  | chunked d => exact Chunked.Decoder.error_of_decode (decode_chunked_eq_error_iff.1 h)

end Framing

/-! ## Whole requests -/

variable {head : Head} {start n : Nat} {framing : Framing} {r : Request}

/-- A request has the fields of its head, and its body. -/
theorem Head.exists_of_withBody {body : Bytes} (h : head.withBody body = .ok r) :
    ∃ multipart, r = { method := head.method, path := head.path, query := head.query
                       version := head.version, headers := head.headers, body, multipart } := by
  unfold withBody at h
  split at h
  · exact ⟨_, (Except.ok.inj h).symm⟩
  · split at h
    · simp at h
    · exact ⟨_, (Except.ok.inj h).symm⟩
    · split at h
      · simp at h
      · exact ⟨_, (Except.ok.inj h).symm⟩

/-- A form that is refused. -/
theorem Head.error_of_withBody {body : Bytes} (h : head.withBody body = .error e) :
    ∃ cause, e = .multipart cause := by
  unfold withBody at h
  dsimp only at h
  split at h
  · simp at h
  · split at h
    · next cause _ => exact ⟨cause, by simpa using h.symm⟩
    · simp at h
    · split at h
      · next cause _ => exact ⟨cause, by simpa using h.symm⟩
      · simp at h

/-- Behind a head whose framing is known a request is its body. -/
theorem parse_of_head (hh : Head.parse buf limits = .ok (head, start))
    (hf : Framing.ofHeaders head.headers limits = .ok framing) :
    parse buf limits =
      match (framing.decode (buf.drop start)).1 with
      | .error e => .error e
      | .ok none => .error .incomplete
      | .ok (some (body, n)) => (head.withBody body).map fun r => (r, start + n) := by
  unfold parse
  split
  · next e he => rw [hh] at he; contradiction
  · next head' start' hh' =>
      obtain ⟨rfl, rfl⟩ : head' = head ∧ start' = start :=
        Prod.mk.inj (Except.ok.inj (hh'.symm.trans hh))
      split
      · next e he => rw [hf] at he; contradiction
      · next framing' hf' =>
          obtain rfl : framing' = framing := Except.ok.inj (hf'.symm.trans hf)
          rfl

/-- The stages that an accepted request has passed. -/
theorem stages_of_parse (h : parse buf limits = .ok (r, n)) :
    ∃ head start framing body k,
      Head.parse buf limits = .ok (head, start) ∧
      Framing.ofHeaders head.headers limits = .ok framing ∧
      (framing.decode (buf.drop start)).1 = .ok (some (body, k)) ∧
      head.withBody body = .ok r ∧ n = start + k := by
  unfold parse at h
  split at h
  · contradiction
  · next head start hh =>
      split at h
      · contradiction
      · next framing hf =>
          split at h
          · contradiction
          · contradiction
          · next body k hd =>
              cases hw : head.withBody body with
              | error e => simp [hw, Except.map] at h
              | ok r' =>
                  simp only [hw, Except.map, Except.ok.injEq, Prod.mk.injEq] at h
                  obtain ⟨rfl, rfl⟩ := h
                  exact ⟨head, start, framing, body, k, hh, hf, hd, hw, rfl⟩

/-- A request that is refused is refused by one of the stages. -/
theorem stages_of_parse_error (h : parse buf limits = .error e) :
    Head.parse buf limits = .error e ∨
      ∃ head start, Head.parse buf limits = .ok (head, start) ∧
        (Framing.ofHeaders head.headers limits = .error e ∨
          ∃ framing, Framing.ofHeaders head.headers limits = .ok framing ∧
            ((framing.decode (buf.drop start)).1 = .error e ∨
              ((framing.decode (buf.drop start)).1 = .ok none ∧ e = .incomplete) ∨
              ∃ body k, (framing.decode (buf.drop start)).1 = .ok (some (body, k)) ∧
                head.withBody body = .error e)) := by
  unfold parse at h
  split at h
  · next e' hh =>
      obtain rfl : e' = e := by simpa using h
      exact .inl hh
  · next head start hh =>
      refine .inr ⟨head, start, hh, ?_⟩
      split at h
      · next e' hf =>
          obtain rfl : e' = e := by simpa using h
          exact .inl hf
      · next framing hf =>
          refine .inr ⟨framing, hf, ?_⟩
          split at h
          · next e' hd =>
              obtain rfl : e' = e := by simpa using h
              exact .inl hd
          · next hd => exact .inr (.inl ⟨hd, by simpa using h.symm⟩)
          · next body k hd =>
              refine .inr (.inr ⟨body, k, hd, ?_⟩)
              cases hw : head.withBody body with
              | error e' =>
                  obtain rfl : e' = e := by simpa [hw, Except.map] using h
                  rfl
              | ok r => simp [hw, Except.map] at h

/-- A request is incomplete for want of a blank line or of bytes of the body. -/
theorem parse_eq_incomplete_iff :
    parse buf limits = .error .incomplete ↔
      (Head.findEnd buf 0 = none ∧ buf.length ≤ limits.maxHeader) ∨
        ∃ head start framing, Head.parse buf limits = .ok (head, start) ∧
          Framing.ofHeaders head.headers limits = .ok framing ∧
          (framing.decode (buf.drop start)).1 = .ok none := by
  constructor
  · intro h
    obtain hh | ⟨head, start, hh, hf | ⟨framing, hf, hd | ⟨hd, _⟩ | ⟨body, k, _, hw⟩⟩⟩ :=
      stages_of_parse_error h
    · cases hn : Head.findEnd buf 0 with
      | none =>
          rw [Head.parse_of_findEnd_none hn] at hh
          split at hh
          · simp at hh
          · exact .inl ⟨rfl, by omega⟩
      | some n =>
          rcases Nat.lt_or_ge limits.maxHeader n with hlt | hge
          · rw [Head.parse_of_findEnd_some hn, if_pos hlt] at hh
            simp at hh
          · have := Head.error_of_parse hn hge hh
            simp at this
    · have := Framing.error_of_ofHeaders hf
      simp at this
    · have := Framing.error_of_decode hd
      simp at this
    · exact .inr ⟨head, start, framing, hh, hf, hd⟩
    · obtain ⟨_, hm⟩ := Head.error_of_withBody hw
      contradiction
  · rintro (⟨hn, hle⟩ | ⟨head, start, framing, hh, hf, hd⟩)
    · have hh : Head.parse buf limits = .error .incomplete := by
        rw [Head.parse_of_findEnd_none hn, if_neg (by omega)]
      simp only [parse, hh]
    · rw [parse_of_head hh hf, hd]

/-- Too large a head is refused before anything else is looked at. -/
theorem head_of_parse_headersTooLarge {k : Nat}
    (h : parse buf limits = .error (.headersTooLarge k)) :
    Head.parse buf limits = .error (.headersTooLarge k) := by
  obtain hh | ⟨head, start, hh, hf | ⟨framing, hf, hd | ⟨_, hd⟩ | ⟨body, k, _, hw⟩⟩⟩ :=
    stages_of_parse_error h
  · exact hh
  · have := Framing.error_of_ofHeaders hf
    simp at this
  · have := Framing.error_of_decode hd
    simp at this
  · contradiction
  · obtain ⟨_, hm⟩ := Head.error_of_withBody hw
    contradiction

end Request

end WebServer
