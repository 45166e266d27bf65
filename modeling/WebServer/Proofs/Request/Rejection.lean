import WebServer.Proofs.Request.Growth

/-!
# WebServer.Proofs.Request.Rejection

When a refusal is final. A limit is compared with what has arrived, and the bytes
of a line end that is still incomplete are counted too. So there are buffers that
are refused although what follows would make them acceptable: a head, or a framing
line, that is as long as it may be and whose line end is cut (`CutAtLimit`).

Main statement: a refusal is final exactly when the buffer is not cut in this way,
and the beginning of an acceptable buffer is refused exactly when it is
(`refused_for_good_iff`).
-/

namespace WebServer

namespace Request

variable {buf more : Bytes} {limits : Limits} {e : ParseError} {q : Request} {n : Nat}

/-! ## Cut line ends -/

/-- A head within its limit, of whose blank line only the beginning has arrived,
and so much of it that the buffer is longer than the limit. -/
def CutHead (limits : Limits) (buf : Bytes) : Prop :=
  limits.maxHeader < buf.length ∧ Bytes.indexOf? blankLine buf = none ∧
    ∃ k ≤ limits.maxHeader, buf.drop k <+: blankLine

/-- A body in chunks that stops at a framing line whose line end is cut. -/
def CutBody (limits : Limits) (buf : Bytes) : Prop :=
  ∃ head start d, Head.parse buf limits = .ok (head, start) ∧
    Framing.ofHeaders head.headers limits = .ok (.chunked d) ∧
    d.StopsAtCut ((buf.drop start).drop d.pos)

/-- A line end is cut behind a head or a framing line at its limit. -/
def CutAtLimit (limits : Limits) (buf : Bytes) : Prop := CutHead limits buf ∨ CutBody limits buf

/-! ## The head -/

namespace Head

/-- A blank line that appears at an offset within the limit was cut. -/
theorem cutHead_of_findEnd_append (hlong : limits.maxHeader < buf.length)
    (hnone : findEnd buf 0 = none) (hsome : findEnd (buf ++ more) 0 = some n)
    (hn : n ≤ limits.maxHeader) : CutHead limits buf := by
  rw [findEnd_zero] at hnone hsome
  refine ⟨hlong, hnone, n, hn, ?_⟩
  have hlt := Bytes.lt_add_length_of_indexOf?_append hnone hsome
  have hp := ((Bytes.indexOf?_eq_some_iff (by decide)).1 hsome).1
  rw [List.drop_append_of_le_length (by omega)] at hp
  refine List.prefix_of_prefix_length_le (List.prefix_append _ _) hp ?_
  rw [List.length_drop]
  omega

/-- The rest of a cut blank line ends the head within the limit. -/
theorem exists_findEnd_of_cutHead (h : CutHead limits buf) :
    ∃ more n, findEnd (buf ++ more) 0 = some n ∧ n ≤ limits.maxHeader := by
  obtain ⟨hlong, _, k, hk, more, hmore⟩ := h
  have hdrop : (buf ++ more).drop k = blankLine := by
    rw [List.drop_append_of_le_length (by omega), hmore]
  refine ⟨more, ?_⟩
  rw [findEnd_zero]
  cases hi : Bytes.indexOf? blankLine (buf ++ more) with
  | none =>
      have hno := (Bytes.indexOf?_eq_none_iff (by decide)).1 hi k
      rw [hdrop] at hno
      exact absurd (List.prefix_refl _) hno
  | some n =>
      refine ⟨n, rfl, ?_⟩
      rcases Nat.lt_or_ge k n with hlt | hge
      · have hno := ((Bytes.indexOf?_eq_some_iff (by decide)).1 hi).2 k hlt
        rw [hdrop] at hno
        exact absurd (List.prefix_refl _) hno
      · omega

/-- A cut head is refused for its length. -/
theorem parse_of_cutHead (h : CutHead limits buf) :
    parse buf limits = .error (.headersTooLarge limits.maxHeader) := by
  rw [parse_of_findEnd_none (by rw [findEnd_zero, h.2.1]), if_pos h.1]

/-- A head that ends within the limit is not refused for its length. -/
theorem parse_ne_headersTooLarge {k : Nat} (hf : findEnd buf 0 = some n)
    (hn : n ≤ limits.maxHeader) : parse buf limits ≠ .error (.headersTooLarge k) := by
  intro h
  have := error_of_parse hf hn h
  simp at this

/-- A refused head stays refused, unless its blank line is cut. -/
theorem parse_append_of_error (h : parse buf limits = .error e) (he : e ≠ .incomplete)
    (hc : ¬ CutHead limits buf) (more : Bytes) : parse (buf ++ more) limits = .error e := by
  cases hf : findEnd buf 0 with
  | some n => rw [parse_append_of_findEnd hf, h]
  | none =>
      rw [parse_of_findEnd_none hf] at h
      by_cases hlong : limits.maxHeader < buf.length
      · rw [if_pos hlong] at h
        cases hf' : findEnd (buf ++ more) 0 with
        | none =>
            have hlong' : limits.maxHeader < (buf ++ more).length := by
              rw [List.length_append]
              omega
            rw [parse_of_findEnd_none hf', if_pos hlong', h]
        | some n =>
            rw [parse_of_findEnd_some hf']
            by_cases hn : limits.maxHeader < n
            · rw [if_pos hn, h]
            · exact absurd (cutHead_of_findEnd_append hlong hf hf' (by omega)) hc
      · rw [if_neg hlong] at h
        exact absurd (by simpa using h.symm) he

end Head

/-! ## The body -/

namespace Framing

/-- A refused body stays refused, unless it stops at a cut line. -/
theorem decode_append_of_error {d : Chunked.Decoder} (hpos : d.pos ≤ buf.length)
    (h : ((Framing.chunked d).decode buf).1 = .error e)
    (hc : ¬ d.StopsAtCut (buf.drop d.pos)) (more : Bytes) :
    ((Framing.chunked d).decode (buf ++ more)).1 = .error e := by
  rw [decode_chunked_eq_error_iff, Chunked.Decoder.decode_eq_run hpos] at h
  have hgrown := Chunked.Decoder.run_append_of_error h hc more
  rw [decode_chunked_eq_error_iff,
    Chunked.Decoder.decode_eq_run (by rw [List.length_append]; omega),
    List.drop_append_of_le_length hpos, hgrown]

end Framing

/-! ## Whole requests -/

/-- What is refused stays refused, unless a line end is cut at its limit. -/
theorem parse_append_of_error (h : parse buf limits = .error e) (he : e ≠ .incomplete)
    (hc : ¬ CutAtLimit limits buf) (more : Bytes) : parse (buf ++ more) limits = .error e := by
  have hhead : ¬ CutHead limits buf := fun hcut => hc (.inl hcut)
  have hbody : ¬ CutBody limits buf := fun hcut => hc (.inr hcut)
  obtain hh | ⟨head, start, hh, hrest⟩ := stages_of_parse_error h
  · have hgrown := Head.parse_append_of_error hh he hhead more
    simp only [parse, hgrown]
  · have hle := (Head.findEnd_of_parse hh).2.2.1
    have hgrown := Head.parse_append_of_ok hh more
    have hdrop : (buf ++ more).drop start = buf.drop start ++ more :=
      List.drop_append_of_le_length hle
    obtain hf | ⟨framing, hf, hstop⟩ := hrest
    · simp only [parse, hgrown, hf]
    · rw [parse_of_head hgrown hf, hdrop]
      obtain hd | ⟨_, hi⟩ | ⟨body, k, hd, hw⟩ := hstop
      · cases framing with
        | length k => simp [Framing.decode] at hd
        | chunked d =>
            have hpos : d.pos = 0 := by rw [(Framing.of_ofHeaders_chunked hf).2.2]
            have hcut : ¬ d.StopsAtCut ((buf.drop start).drop d.pos) :=
              fun hs => hbody ⟨head, start, d, hh, hf, hs⟩
            rw [Framing.decode_append_of_error (by omega) hd hcut more]
      · exact absurd hi he
      · rw [Framing.decode_append_of_some hd]
        simp only [hw, Except.map]

/-- Whether a head and all framing lines stay below their limits, by so much that
a line end counted with them does not matter. -/
def isRoomy (limits : Limits) (w : Bytes) : Bool :=
  match Head.parse w limits with
  | .error _ => true
  | .ok (head, start) =>
      decide (start ≤ limits.maxHeader) &&
        match Framing.ofHeaders head.headers limits with
        | .ok (.chunked d) => decide (d.longestLine (w.drop start) < Chunked.maxLine)
        | _ => true

/-- The beginning of a roomy request has no line end cut at its limit. -/
theorem not_cutAtLimit_of_isRoomy (h : parse (buf ++ more) limits = .ok (q, n))
    (hr : isRoomy limits (buf ++ more) = true) : ¬ CutAtLimit limits buf := by
  obtain ⟨head, start, framing, body, k, hh, hf, hd, _, _⟩ := stages_of_parse h
  obtain ⟨hend, hpos, _, _⟩ := Head.findEnd_of_parse hh
  rw [Head.findEnd_zero] at hend
  rw [isRoomy, hh] at hr
  simp only [hf, Bool.and_eq_true, decide_eq_true_eq] at hr
  obtain ⟨hstart, hlines⟩ := hr
  rintro (⟨hlong, hnone, _⟩ | ⟨head', start', d, hh', hf', hs⟩)
  · -- without its blank line the buffer is shorter than the head with it
    have hlt := Bytes.lt_add_length_of_indexOf?_append hnone hend
    simp only [blankLine, List.length_cons, List.length_nil] at hlt
    omega
  · have hgrown := Head.parse_append_of_ok hh' more
    obtain ⟨rfl, rfl⟩ : head' = head ∧ start' = start := by simpa [hgrown] using hh
    obtain rfl : framing = .chunked d := by simpa [hf] using hf'
    have hpos : d.pos = 0 := by rw [(Framing.of_ofHeaders_chunked hf).2.2]
    have hle := (Head.findEnd_of_parse hh').2.2.1
    rw [List.drop_append_of_le_length hle] at hd hlines
    obtain ⟨d', hd', _⟩ := Framing.decode_chunked_eq_some_iff.1 hd
    rw [Chunked.Decoder.decode_eq_run (by omega), hpos, List.drop_zero] at hd'
    rw [hpos, List.drop_zero] at hs
    exact Chunked.Decoder.not_stopsAtCut_of_longestLine hd' (by simpa using hlines) hs

/-- The beginning of a request is refused only with a line end cut at its limit. -/
theorem cutAtLimit_of_parse_take {w : Bytes} (h : parse w limits = .ok (q, w.length)) {k : Nat}
    (hp : parse (w.take k) limits = .error e) (he : e ≠ .incomplete) :
    CutAtLimit limits (w.take k) := by
  refine Classical.byContradiction fun hc => ?_
  have hgrown := parse_append_of_error hp he hc (w.drop k)
  rw [List.take_append_drop, h] at hgrown
  contradiction

/-- A cut line end is refused, and the rest of it takes the refusal back. -/
theorem exists_parse_append_ne_of_cutAtLimit (h : CutAtLimit limits buf) :
    ∃ e, e ≠ .incomplete ∧ parse buf limits = .error e ∧
      ∃ more, parse (buf ++ more) limits ≠ .error e := by
  obtain hcut | ⟨head, start, d, hh, hf, hs⟩ := h
  · refine ⟨.headersTooLarge limits.maxHeader, by simp, ?_, ?_⟩
    · simp only [parse, Head.parse_of_cutHead hcut]
    · obtain ⟨more, n, hend, hn⟩ := Head.exists_findEnd_of_cutHead hcut
      refine ⟨more, fun hlong => ?_⟩
      exact Head.parse_ne_headersTooLarge hend hn (head_of_parse_headersTooLarge hlong)
  · have hpos : d.pos = 0 := by rw [(Framing.of_ofHeaders_chunked hf).2.2]
    have hle := (Head.findEnd_of_parse hh).2.2.1
    refine ⟨.invalidChunk, by simp, ?_, [10], ?_⟩
    · have hd : ((Framing.chunked d).decode (buf.drop start)).1 = .error .invalidChunk := by
        rw [Framing.decode_chunked_eq_error_iff, Chunked.Decoder.decode_eq_run (by omega)]
        exact Chunked.Decoder.run_of_stopsAtCut hs
      rw [parse_of_head hh hf, hd]
    · intro hchunk
      have hnot := Chunked.Decoder.run_append_of_stopsAtCut hs
      have hdrop : (buf ++ [10]).drop start = buf.drop start ++ [10] :=
        List.drop_append_of_le_length hle
      rw [parse_of_head (Head.parse_append_of_ok hh [10]) hf, hdrop] at hchunk
      have hrun : (d.decode (buf.drop start ++ [10])).1 ≠ .error .invalidChunk := by
        rw [Chunked.Decoder.decode_eq_run (by omega), List.drop_append_of_le_length (by omega)]
        exact hnot
      split at hchunk
      · next e hd =>
          obtain rfl : e = .invalidChunk := by simpa using hchunk
          exact hrun (Framing.decode_chunked_eq_error_iff.1 hd)
      · simp at hchunk
      · next body k hd =>
          cases hw : head.withBody body with
          | error e =>
              obtain rfl : e = .invalidChunk := by simpa [hw, Except.map] using hchunk
              obtain ⟨_, hm⟩ := Head.error_of_withBody hw
              contradiction
          | ok q => simp [hw, Except.map] at hchunk

/-- **When a refusal is final.** A refused buffer is refused for the same reason
whatever follows, exactly when no line end of it is cut at its limit. And of the
beginnings of an acceptable buffer exactly those are refused that end in a line end
cut at its limit: all others are read to the end or waited for. -/
theorem refused_for_good_iff (limits : Limits) (buf : Bytes) :
    (∀ e, parse buf limits = .error e → e ≠ .incomplete →
        ((∀ more, parse (buf ++ more) limits = .error e) ↔ ¬ CutAtLimit limits buf)) ∧
      ∀ more q n, parse (buf ++ more) limits = .ok (q, n) →
        ((∃ e, e ≠ .incomplete ∧ parse buf limits = .error e) ↔ CutAtLimit limits buf) := by
  constructor
  · intro e h he
    constructor
    · intro hfinal hcut
      obtain ⟨e', _, h', more, hmore⟩ := exists_parse_append_ne_of_cutAtLimit hcut
      obtain rfl : e = e' := by simpa [h] using h'
      exact hmore (hfinal more)
    · exact fun hc more => parse_append_of_error h he hc more
  · intro more q n hok
    constructor
    · rintro ⟨e, he, h⟩
      refine Classical.byContradiction fun hc => ?_
      have hgrown := parse_append_of_error h he hc more
      rw [hok] at hgrown
      contradiction
    · intro hcut
      obtain ⟨e, he, h, _⟩ := exists_parse_append_ne_of_cutAtLimit hcut
      exact ⟨e, he, h⟩

/-- A head of fourteen bytes, where fourteen are allowed: refused when it arrives
with the first byte of its blank line, accepted when that is whole. -/
theorem refused_for_good_iff_at_fourteen :
    parse (utf8 "GET / HTTP/1.1\r") { maxHeader := 14 } = .error (.headersTooLarge 14) ∧
      CutAtLimit { maxHeader := 14 } (utf8 "GET / HTTP/1.1\r") ∧
      ¬ ∀ more, parse (utf8 "GET / HTTP/1.1\r" ++ more) { maxHeader := 14 } =
        .error (.headersTooLarge 14) := by
  have hrefused : parse (utf8 "GET / HTTP/1.1\r") { maxHeader := 14 } =
      .error (.headersTooLarge 14) := by decide +kernel
  obtain ⟨q, n, hok⟩ : ∃ q n, parse (utf8 "GET / HTTP/1.1\r" ++ utf8 "\n\r\n")
      { maxHeader := 14 } = .ok (q, n) :=
    ⟨{ method := .get, path := "/" }, 18, by decide +kernel⟩
  obtain ⟨hfinal, hbeginning⟩ :=
    refused_for_good_iff { maxHeader := 14 } (utf8 "GET / HTTP/1.1\r")
  have hcut := (hbeginning _ q n hok).1 ⟨_, by simp, hrefused⟩
  exact ⟨hrefused, hcut, fun h => (hfinal _ hrefused (by simp)).1 h hcut⟩

end Request

end WebServer
