import WebServer.Proofs.Request.Stage
import WebServer.Proofs.Text.Line
import WebServer.Request.Framing

/-!
# WebServer.Proofs.Request.HeadSize

How short a head can be that announces a body in chunks. Words and lines are never longer than
the text they are cut from, so the length is bounded from below by what must be on its lines.

Main statement: such a head has 40 bytes at least (`Head.le_of_parse`), which those of
`GET / HTTP/1.` and `Transfer-Encoding:chunked` with the line end between them have.
-/

namespace WebServer

/-! ## Parts of a text -/

/-- The lines of a text and their line ends are as long as the text with a line end more. -/
theorem length_linesFrom (acc cs : List Char) :
    (linesFrom acc cs).flatten.length + 2 * (linesFrom acc cs).length =
      acc.length + cs.length + 2 := by
  fun_induction linesFrom acc cs with
  | case1 acc => simp
  | case2 acc cs ih =>
      rw [List.flatten_cons, List.length_append, List.length_reverse]
      simp only [List.length_cons, List.length_nil] at ih ⊢
      omega
  | case3 acc c cs _ ih =>
      simp only [List.length_cons] at ih ⊢
      omega

/-- The parts of a text and their separators are as long as the text with a separator more. -/
theorem length_splitOnP (p : Char → Bool) (cs : List Char) :
    (cs.splitOnP p).flatten.length + (cs.splitOnP p).length = cs.length + 1 := by
  induction cs with
  | nil => simp
  | cons c cs ih =>
      rw [List.splitOnP_cons_eq_if_modifyHead]
      split
      · simp only [List.flatten_cons, List.nil_append, List.length_cons]
        omega
      · obtain ⟨part, parts, hparts⟩ := List.exists_cons_of_ne_nil (List.splitOnP_ne_nil p cs)
        rw [hparts] at ih ⊢
        simp only [List.modifyHead_cons, List.flatten_cons, List.length_append,
          List.length_cons] at ih ⊢
        omega

/-- Words stand apart. -/
theorem length_words_le (cs : List Char) :
    (words cs).flatten.length + (words cs).length ≤ cs.length + 1 := by
  rw [← length_splitOnP isBlank cs, words, List.flatten_filter_not_isEmpty]
  exact Nat.add_le_add_left (List.length_filter_le ..) _

theorem length_le_of_mem_splitOn {c : Char} {cs part : List Char} (h : part ∈ cs.splitOn c) :
    part.length ≤ cs.length := by
  rw [List.splitOn_eq_splitOnP] at h
  have hsum := length_splitOnP (· == c) cs
  have hpart := (List.sublist_flatten_of_mem h).length_le
  have hone := List.length_pos_of_mem h
  omega

theorem length_trim_le (cs : List Char) : (trim cs).length ≤ cs.length :=
  (trimBy_sublist isBlank cs).length_le

theorem length_of_sameName {a b : String} (h : sameName a b = true) :
    a.toList.length = b.toList.length := by
  simpa [foldCase] using congrArg List.length (beq_iff_eq.1 h)

/-- A character is a byte at least. -/
theorem length_le_length_utf8 (s : String) : s.toList.length ≤ (utf8 s).length := by
  rw [utf8_eq]
  induction s.toList with
  | nil => simp
  | cons c cs ih =>
      have hpos : 0 < (String.utf8EncodeChar c).length := by
        rw [String.length_utf8EncodeChar]
        exact Char.utf8Size_pos c
      rw [List.flatMap_cons, List.length_append, List.length_cons]
      omega

/-! ## Parts of a head -/

namespace Request

/-- Header fields that announce chunks hold a `Transfer-Encoding` whose value has room for it. -/
theorem Framing.exists_of_isChunked {h : Headers} (hc : isChunked h = true) :
    ∃ f ∈ h.entries, f.1.toList.length = 17 ∧ 7 ≤ f.2.toList.length := by
  unfold isChunked at hc
  split at hc
  · next coding hlast =>
      obtain ⟨value, hvalue, hcoding⟩ := List.mem_flatMap.1 (List.mem_of_getLast? hlast)
      obtain ⟨f, hf, rfl⟩ := List.mem_map.1 hvalue
      obtain ⟨hmem, hname⟩ := List.mem_filter.1 hf
      obtain ⟨part, hpart, rfl⟩ := List.mem_map.1 hcoding
      have hseven : (trim part).length = 7 := by
        simpa [foldCase] using congrArg List.length (beq_iff_eq.1 hc)
      have htrim := length_trim_le part
      have hsplit := length_le_of_mem_splitOn hpart
      exact ⟨f, hmem, length_of_sameName hname, by omega⟩
  · contradiction

namespace Head

variable {buf : Bytes} {limits : Limits} {h : Head} {line text : List Char} {start : Nat}

theorem three_le_length_name (m : Method) : 3 ≤ m.name.toList.length := by
  cases m <;> decide

/-- A request line has a method, a target and a version. -/
theorem le_of_parseLine {parts : Method × String × Option String × String}
    (hl : parseLine line = .ok parts) : 13 ≤ line.length := by
  unfold parseLine at hl
  split at hl
  · next method target version hwords =>
      have hsum := length_words_le line
      simp only [hwords, List.flatten_cons, List.flatten_nil, List.append_nil, List.length_append,
        List.length_cons, List.length_nil] at hsum
      have htarget : target ≠ [] := by
        have hmem : target ∈ words line := by simp [hwords]
        simpa using (List.mem_filter.1 hmem).2
      have hone := List.length_pos_iff.2 htarget
      split at hl
      · contradiction
      · next m hm =>
          have hthree := three_le_length_name m
          rw [Method.ofName?_eq_some_iff.1 hm, String.toList_ofList] at hthree
          split at hl
          · next hv =>
              have hseven := (List.isPrefixOf_iff_prefix.1 hv).length_le
              have hlen : "HTTP/1.".toList.length = 7 := by decide
              omega
          · contradiction
  · contradiction

/-- A header field is on the line with its colon. -/
theorem le_of_parseField {f : String × String} (hl : parseField line = .ok f) :
    f.1.toList.length + 1 + f.2.toList.length ≤ line.length := by
  unfold parseField at hl
  split at hl
  · contradiction
  · next name value hsplit =>
      dsimp only at hl
      split at hl
      · contradiction
      · obtain rfl := Except.ok.inj hl
        have hname := length_trim_le name
        have hvalue := length_trim_le value
        rw [(splitOnce_eq_some_iff.1 hsplit).1, List.length_append, List.length_cons,
          String.toList_ofList, String.toList_ofList]
        omega

theorem le_of_parseText (hp : parseText text = .ok h)
    (hc : Framing.isChunked h.headers = true) : 40 ≤ text.length := by
  unfold parseText at hp
  split at hp
  · contradiction
  · next first lines hlines =>
      split at hp
      · contradiction
      · next parts hl =>
          split at hp
          · contradiction
          · next fields hfields =>
              obtain rfl := Except.ok.inj hp
              obtain ⟨f, hf, hname, hvalue⟩ := Framing.exists_of_isChunked hc
              obtain ⟨line, hline, hread⟩ := (of_mapM_eq_ok hfields).2 f hf
              have hfirst := le_of_parseLine hl
              have hsecond := le_of_parseField hread
              -- the two lines stand one behind the other
              have hsum := length_linesFrom [] text
              rw [← crlfLines, hlines, List.flatten_cons, List.length_append, List.length_cons,
                List.length_nil] at hsum
              have hmem := (List.mem_filter.1 hline).1
              have hle := (List.sublist_flatten_of_mem hmem).length_le
              have hone := List.length_pos_of_mem hmem
              omega

/-- A head that announces a body in chunks has 40 bytes at least. -/
theorem le_of_parse (hp : parse buf limits = .ok (h, start))
    (hc : Framing.isChunked h.headers = true) : 40 ≤ limits.maxHeader := by
  obtain ⟨hend, _, _, hmax⟩ := findEnd_of_parse hp
  rw [parse_of_findEnd_some hend, if_neg (by omega)] at hp
  split at hp
  · contradiction
  · next text ht =>
      cases hx : parseText text.toList with
      | error e => simp [hx, Except.map] at hp
      | ok h' =>
          obtain ⟨rfl, _⟩ : h' = h ∧ _ := by simpa [hx, Except.map] using hp
          have hforty := le_of_parseText hx hc
          have hbytes := length_le_length_utf8 text
          rw [utf8_of_text? ht, List.length_take] at hbytes
          omega

end Head

end Request

end WebServer
