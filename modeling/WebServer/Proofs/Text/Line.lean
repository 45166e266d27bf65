import Mathlib.Data.List.DropRight
import WebServer.Proofs.Delimiter
import WebServer.Text.Blank
import WebServer.Text.Split

/-!
# WebServer.Proofs.Text.Line

Text on the wire: its bytes, its words and its lines. An ASCII character is one byte,
and all others have marked bytes only (`utf8EncodeChar_cases`), so line
ends are found in the bytes exactly where they stand in the text. Lines that are
joined by line ends are the lines of the joined text (`crlfLines_intercalate`).
-/

namespace WebServer

/-! ## Bytes of a text -/

theorem utf8_ofList (cs : List Char) :
    utf8 (String.ofList cs) = cs.flatMap String.utf8EncodeChar := by
  simp [utf8, List.utf8Encode]

theorem utf8_eq (s : String) : utf8 s = s.toList.flatMap String.utf8EncodeChar := by
  rw [← utf8_ofList, String.ofList_toList]

theorem utf8_append (s t : String) : utf8 (s ++ t) = utf8 s ++ utf8 t := by
  rw [utf8_eq, String.toList_append, List.flatMap_append, ← utf8_eq, ← utf8_eq]

/-- The mark of a byte that is not the first of its character. -/
theorem toNat_or_mark (b : UInt8) :
    128 ≤ (b &&& 63 ||| 128).toNat ∧ (b &&& 63 ||| 128).toNat < 192 := by
  have hall : ∀ n < 256, 128 ≤ (UInt8.ofNat n &&& 63 ||| 128).toNat ∧
      (UInt8.ofNat n &&& 63 ||| 128).toNat < 192 := by
    decide +kernel
  have hb := hall b.toNat b.toNat_lt
  rwa [UInt8.ofNat_toNat] at hb

theorem le_toNat_or {b m : UInt8} (hm : 192 ≤ m.toNat) : 192 ≤ (b ||| m).toNat := by
  rw [UInt8.toNat_or]
  exact Nat.le_trans hm Nat.right_le_or

/-- A character is its own byte, or it has a first byte and others that continue it. -/
theorem utf8EncodeChar_cases (c : Char) :
    (c.toNat < 128 ∧ String.utf8EncodeChar c = [c.val.toUInt8]) ∨
      ∃ b bs, String.utf8EncodeChar c = b :: bs ∧ 192 ≤ b.toNat ∧
        ∀ x ∈ bs, 128 ≤ x.toNat ∧ x.toNat < 192 := by
  have hsize := c.utf8Size_le_four
  have hpos := c.utf8Size_pos
  obtain h1 | h2 | h3 | h4 :
      c.utf8Size = 1 ∨ c.utf8Size = 2 ∨ c.utf8Size = 3 ∨ c.utf8Size = 4 := by omega
  · have hc : c.toNat ≤ 127 := by
      simpa [Char.utf8Size_eq_one_iff, UInt32.le_iff_toNat_le] using h1
    exact .inl ⟨Nat.lt_succ_of_le hc, String.utf8EncodeChar_eq_singleton h1⟩
  · exact .inr ⟨_, _, String.utf8EncodeChar_eq_cons_cons h2, le_toNat_or (by decide),
      List.forall_mem_singleton.2 (toNat_or_mark _)⟩
  · exact .inr ⟨_, _, String.utf8EncodeChar_eq_cons_cons_cons h3, le_toNat_or (by decide),
      List.forall_mem_cons.2 ⟨toNat_or_mark _, List.forall_mem_singleton.2 (toNat_or_mark _)⟩⟩
  · exact .inr ⟨_, _, String.utf8EncodeChar_eq_cons_cons_cons_cons h4, le_toNat_or (by decide),
      List.forall_mem_cons.2 ⟨toNat_or_mark _,
        List.forall_mem_cons.2 ⟨toNat_or_mark _, List.forall_mem_singleton.2 (toNat_or_mark _)⟩⟩⟩

/-- The byte of a character that is one byte. -/
theorem toNat_toUInt8_val {c : Char} (hc : c.toNat < 128) : c.val.toUInt8.toNat = c.toNat := by
  rw [UInt32.toNat_toUInt8]
  show c.toNat % 256 = c.toNat
  omega

/-- An ASCII byte stands for its own character. -/
theorem of_mem_utf8EncodeChar {c : Char} {b : UInt8} (h : b ∈ String.utf8EncodeChar c)
    (hb : b.toNat < 128) : c.toNat = b.toNat := by
  rcases utf8EncodeChar_cases c with ⟨hc, hbytes⟩ | ⟨b', bs, hbytes, hfirst, hothers⟩
  · rw [hbytes, List.mem_singleton] at h
    rw [h, toNat_toUInt8_val hc]
  · rw [hbytes, List.mem_cons] at h
    rcases h with rfl | h
    · omega
    · have hle := (hothers b h).1
      omega

/-- An ASCII character that a text does not hold has no byte in it. -/
theorem not_mem_utf8_of_lt {s : String} {c : Char} {b : UInt8} (hb : b.toNat < 128)
    (hc : c.toNat = b.toNat) (h : c ∉ s.toList) : b ∉ utf8 s := by
  rw [utf8_eq, List.mem_flatMap]
  rintro ⟨c', hc', hmem⟩
  obtain rfl : c' = c := Char.toNat_inj.1 ((of_mem_utf8EncodeChar hmem hb).trans hc.symm)
  exact h hc'

/-- A text without a carriage return has none in its bytes. -/
theorem not_mem_utf8 {s : String} (h : '\r' ∉ s.toList) : 13 ∉ utf8 s :=
  not_mem_utf8_of_lt (by decide) rfl h

theorem length_utf8_cons (c : Char) (cs : List Char) :
    (utf8 (String.ofList (c :: cs))).length =
      c.utf8Size + (utf8 (String.ofList cs)).length := by
  rw [utf8_ofList, utf8_ofList, List.flatMap_cons, List.length_append,
    String.length_utf8EncodeChar]

/-- An ASCII text has as many bytes as characters. -/
theorem length_utf8_of_lt {cs : List Char} (h : ∀ c ∈ cs, c.toNat < 128) :
    (utf8 (String.ofList cs)).length = cs.length := by
  induction cs with
  | nil => rfl
  | cons c cs ih =>
      have hc : c.utf8Size = 1 := by
        have hlt := h c List.mem_cons_self
        rw [Char.utf8Size_eq_one_iff, UInt32.le_iff_toNat_le]
        exact Nat.le_of_lt_succ hlt
      rw [length_utf8_cons, hc, ih fun c' hc' => h c' (List.mem_cons_of_mem _ hc'),
        List.length_cons, Nat.add_comm]

theorem utf8_eq_nil_iff {s : String} : utf8 s = [] ↔ s = "" := by
  rw [utf8_eq, List.flatMap_eq_nil_iff, ← String.toList_eq_nil_iff]
  constructor
  · intro h
    cases hs : s.toList with
    | nil => rfl
    | cons c cs =>
        have hc : c ∈ s.toList := by rw [hs]; exact List.mem_cons_self
        exact absurd (h c hc) String.utf8EncodeChar_ne_nil
  · intro h c hc
    rw [h] at hc
    contradiction

/-! ## White space and words -/

theorem dropWhile_eq_self {p : Char → Bool} {cs : List Char} (h : ∀ c ∈ cs, p c = false) :
    cs.dropWhile p = cs := by
  cases cs with
  | nil => rfl
  | cons c cs => rw [List.dropWhile_cons_of_neg (by simp [h c List.mem_cons_self])]

section Trim

variable {p : Char → Bool} {c c' : Char}

theorem trimBy_eq_self {cs : List Char} (h : ∀ c ∈ cs, p c = false) : trimBy p cs = cs := by
  rw [trimBy, dropWhile_eq_self h,
    dropWhile_eq_self fun c hc => h c (List.mem_reverse.1 hc), List.reverse_reverse]

theorem trimBy_cons (hc : p c = true) (cs : List Char) : trimBy p (c :: cs) = trimBy p cs := by
  rw [trimBy, List.dropWhile_cons_of_pos hc, ← trimBy]

theorem trimBy_append_singleton (hc : p c = true) (cs : List Char) :
    trimBy p (cs ++ [c]) = trimBy p cs := by
  have hnone : [c].dropWhile p = [] := by rw [List.dropWhile_cons_of_pos hc, List.dropWhile_nil]
  rw [trimBy, trimBy, List.dropWhile_append, hnone]
  split
  · next hempty => rw [List.isEmpty_iff.1 hempty]
  · rw [List.reverse_append, List.reverse_singleton, List.singleton_append,
      List.dropWhile_cons_of_pos hc]

/-- Nothing is cut off between characters that stay. -/
theorem trimBy_of_ends (hc : p c = false) (hc' : p c' = false) (cs : List Char) :
    trimBy p (c :: (cs ++ [c'])) = c :: (cs ++ [c']) := by
  have hreverse : (c :: (cs ++ [c'])).reverse = c' :: (c :: cs).reverse := by simp
  rw [trimBy, List.dropWhile_cons_of_neg (by simp [hc]), hreverse,
    List.dropWhile_cons_of_neg (by simp [hc']), ← hreverse, List.reverse_reverse]

/-- What is left lies in what there was. -/
theorem trimBy_sublist (p : Char → Bool) (cs : List Char) : (trimBy p cs).Sublist cs := by
  have hback := List.dropWhile_sublist p (l := (cs.dropWhile p).reverse)
  rw [← List.reverse_sublist, List.reverse_reverse] at hback
  exact hback.trans (List.dropWhile_sublist p)

/-- What is left has nothing more to cut off. -/
theorem trimBy_trimBy (p : Char → Bool) (cs : List Char) :
    trimBy p (trimBy p cs) = trimBy p cs := by
  have htrim : ∀ cs, trimBy p cs = (cs.dropWhile p).rdropWhile p := fun _ => rfl
  -- what is left in front starts as before, unless nothing is left
  have hfront : ((cs.dropWhile p).rdropWhile p).dropWhile p = (cs.dropWhile p).rdropWhile p := by
    obtain ⟨behind, hbehind⟩ := List.rdropWhile_prefix p (cs.dropWhile p)
    cases hleft : (cs.dropWhile p).rdropWhile p with
    | nil => rfl
    | cons c left =>
        have hhead := List.head?_dropWhile_not p cs
        rw [← hbehind, hleft] at hhead
        simp only [List.cons_append, List.head?_cons] at hhead
        exact List.dropWhile_cons_of_neg (by simp [hhead])
  rw [htrim, htrim, hfront, List.rdropWhile_idempotent]

theorem trim_trim (cs : List Char) : trim (trim cs) = trim cs := trimBy_trimBy _ cs

/-- A text without white space has none at its ends. -/
theorem trim_eq_self {cs : List Char} (h : ∀ c ∈ cs, isBlank c = false) : trim cs = cs :=
  trimBy_eq_self h

/-- White space in front does not matter. -/
theorem trim_cons (hc : isBlank c = true) (cs : List Char) : trim (c :: cs) = trim cs :=
  trimBy_cons hc cs

end Trim

/-- The first word is what stands in front of the first white space. -/
theorem words_append_cons {a b : List Char} {c : Char} (hne : a ≠ [])
    (ha : ∀ x ∈ a, isBlank x = false) (hc : isBlank c = true) :
    words (a ++ c :: b) = a :: words b := by
  rw [words, List.splitOnP_append_cons_of_forall_mem ha c hc,
    List.filter_cons_of_pos (by simpa using hne), ← words]

theorem words_of_word {a : List Char} (hne : a ≠ []) (ha : ∀ x ∈ a, isBlank x = false) :
    words a = [a] := by
  rw [words, List.splitOnP_eq_singleton ha, List.filter_cons_of_pos (by simpa using hne),
    List.filter_nil]

/-! ## Pieces -/

section Pieces

variable {c : Char} {cs piece : List Char}

/-- No piece of a text holds the character it is cut at. -/
theorem not_mem_of_mem_splitOn (h : piece ∈ cs.splitOn c) : c ∉ piece := by
  induction cs generalizing piece with
  | nil =>
      obtain rfl : piece = [] := by simpa using h
      exact List.not_mem_nil
  | cons x cs ih =>
      rw [List.splitOn_cons_eq_if_modifyHead] at h
      split at h
      · rcases List.mem_cons.1 h with rfl | h
        · exact List.not_mem_nil
        · exact ih h
      · next hx =>
          obtain ⟨first, others, hfirst⟩ := List.exists_cons_of_ne_nil (List.splitOn_ne_nil c cs)
          rw [hfirst, List.modifyHead_cons] at h
          rcases List.mem_cons.1 h with rfl | h
          · rw [List.mem_cons, not_or]
            exact ⟨fun hcx => hx (by simp [hcx]), ih (by rw [hfirst]; exact List.mem_cons_self)⟩
          · exact ih (by rw [hfirst]; exact List.mem_cons_of_mem _ h)

/-- What holds no such character in front belongs to the first piece. -/
theorem exists_splitOn_append (h : c ∉ cs) (rest : List Char) :
    ∃ first others, rest.splitOn c = first :: others ∧
      (cs ++ rest).splitOn c = (cs ++ first) :: others := by
  obtain ⟨first, others, hfirst⟩ := List.exists_cons_of_ne_nil (List.splitOn_ne_nil c rest)
  refine ⟨first, others, hfirst, ?_⟩
  induction cs with
  | nil => exact hfirst
  | cons x cs ih =>
      rw [List.mem_cons, not_or] at h
      rw [List.cons_append, List.splitOn_cons_eq_if_modifyHead, ih h.2,
        if_neg (by simpa using Ne.symm h.1)]
      rfl

/-- A piece stands in the text, from one such character or the beginning to the next one or the
end. -/
theorem exists_of_mem_splitOn (h : piece ∈ cs.splitOn c) :
    ∃ front back, cs = front ++ piece ++ back ∧
      (∀ x ∈ front.getLast?, x = c) ∧ (∀ x ∈ back.head?, x = c) := by
  obtain ⟨before, after, hsplit⟩ := List.append_of_mem h
  have hjoin : [c].intercalate (cs.splitOn c) = cs := List.intercalate_splitOn c
  rw [hsplit] at hjoin
  rw [← hjoin]
  clear h hsplit hjoin
  induction before with
  | nil =>
      cases after with
      | nil => exact ⟨[], [], by simp, by simp, by simp⟩
      | cons next after =>
          refine ⟨[], c :: [c].intercalate (next :: after), ?_, by simp, by simp⟩
          rw [List.nil_append, List.intercalate_cons_cons, List.append_assoc]
          rfl
  | cons first before ih =>
      obtain ⟨front, back, hmiddle, hfront, hback⟩ := ih
      refine ⟨first ++ c :: front, back, ?_, ?_, hback⟩
      · rw [List.cons_append, ← List.cons_head_tail (l := before ++ piece :: after) (by simp),
          List.intercalate_cons_cons, List.cons_head_tail, hmiddle]
        simp only [List.append_assoc, List.cons_append, List.nil_append]
      · rw [List.getLast?_append, List.getLast?_cons]
        cases hlast : front.getLast? with
        | none => simp
        | some x => simpa [hlast] using hfront

/-- What the pieces of a text are: they hold no such character, and stand in the text between
two of them, or between one and an end. -/
theorem mem_splitOn_iff :
    piece ∈ cs.splitOn c ↔
      c ∉ piece ∧ ∃ front back, cs = front ++ piece ++ back ∧
        (∀ x ∈ front.getLast?, x = c) ∧ (∀ x ∈ back.head?, x = c) := by
  refine ⟨fun h => ⟨not_mem_of_mem_splitOn h, exists_of_mem_splitOn h⟩, ?_⟩
  rintro ⟨hpiece, front, back, rfl, hfront, hback⟩
  have hends : piece ∈ (piece ++ back).splitOn c := by
    cases back with
    | nil =>
        rw [List.append_nil, List.splitOn_eq_singleton hpiece]
        exact List.mem_cons_self
    | cons x back =>
        obtain rfl : x = c := hback x rfl
        rw [List.splitOn_append_cons_self, List.splitOn_eq_singleton hpiece]
        exact List.mem_cons_self
  rcases List.eq_nil_or_concat front with rfl | ⟨front, x, rfl⟩
  · exact hends
  · obtain rfl : x = c := hfront x (by simp)
    rw [List.append_assoc, List.concat_eq_append, List.append_assoc, List.singleton_append,
      List.splitOn_append_cons_self]
    exact List.mem_append_right _ hends

end Pieces

/-! ## Lines -/

/-- A line goes on to the next line end. -/
theorem linesFrom_append {acc l : List Char} (h : '\r' ∉ l) (rest : List Char) :
    linesFrom acc (l ++ rest) = linesFrom (l.reverse ++ acc) rest := by
  induction l generalizing acc with
  | nil => rfl
  | cons c l ih =>
      rw [List.mem_cons, not_or] at h
      have hstep : linesFrom acc (c :: (l ++ rest)) = linesFrom (c :: acc) (l ++ rest) := by
        rw [linesFrom]
        intro cs hcr _
        exact h.1 hcr.symm
      rw [List.cons_append, hstep, ih h.2, List.reverse_cons, List.append_assoc]
      rfl

/-- Lines joined by line ends are the lines of the joined text. -/
theorem crlfLines_intercalate {ls : List (List Char)} (hne : ls ≠ []) (h : ∀ l ∈ ls, '\r' ∉ l) :
    crlfLines (['\r', '\n'].intercalate ls) = ls := by
  unfold crlfLines
  induction ls with
  | nil => contradiction
  | cons l ls ih =>
      have hl := h l List.mem_cons_self
      cases ls with
      | nil =>
          have hline : linesFrom [] (l ++ []) = linesFrom (l.reverse ++ []) [] :=
            linesFrom_append hl []
          rw [List.append_nil, List.append_nil] at hline
          rw [List.intercalate_singleton, hline, linesFrom, List.reverse_reverse]
      | cons l' ls =>
          have hrest := ih (by simp) fun x hx => h x (List.mem_cons_of_mem _ hx)
          rw [List.intercalate_cons_cons, List.append_assoc, linesFrom_append hl]
          show (l.reverse ++ []).reverse :: linesFrom [] (['\r', '\n'].intercalate (l' :: ls)) = _
          rw [List.append_nil, List.reverse_reverse, hrest]

/-! ## Lines on the wire -/

section Wire

variable {ls : List String}

theorem crlfLines_toList_intercalate (hne : ls ≠ []) (h : ∀ l ∈ ls, '\r' ∉ l.toList) :
    crlfLines ("\r\n".intercalate ls).toList = ls.map String.toList := by
  rw [String.toList_intercalate]
  refine crlfLines_intercalate (by simpa using hne) fun cs hcs => ?_
  obtain ⟨l, hl, rfl⟩ := List.mem_map.1 hcs
  exact h l hl

theorem utf8_intercalate_cons_cons (l l' : String) (ls : List String) :
    utf8 ("\r\n".intercalate (l :: l' :: ls)) =
      utf8 l ++ (crlf ++ utf8 ("\r\n".intercalate (l' :: ls))) := by
  have hcrlf : utf8 "\r\n" = crlf := by decide
  rw [String.intercalate_cons_cons, utf8_append, utf8_append, hcrlf, List.append_assoc]

theorem utf8_intercalate_append_crlf (hne : ls ≠ []) :
    utf8 ("\r\n".intercalate ls) ++ crlf = ls.flatMap fun l => utf8 l ++ crlf := by
  induction ls with
  | nil => contradiction
  | cons l ls ih =>
      rw [List.flatMap_cons]
      cases ls with
      | nil => rw [String.intercalate_singleton, List.flatMap_nil, List.append_nil]
      | cons l' ls =>
          rw [utf8_intercalate_cons_cons, ← ih (by simp)]
          simp only [List.append_assoc]

theorem exists_utf8_intercalate_cons (l : String) (ls : List String) :
    ∃ more, utf8 ("\r\n".intercalate (l :: ls)) = utf8 l ++ more := by
  cases ls with
  | nil => exact ⟨[], by rw [String.intercalate_singleton, List.append_nil]⟩
  | cons l' ls => exact ⟨_, utf8_intercalate_cons_cons l l' ls⟩

/-- A line end is no blank line when a line that is not empty follows it. -/
theorem indexOf?_blankLine_of_line {line : Bytes} {b : UInt8} (hline : 13 ∉ line) (hb : b ≠ 13)
    (bs : Bytes) :
    Bytes.indexOf? blankLine (line ++ (crlf ++ b :: bs)) =
      (Bytes.indexOf? blankLine (b :: bs)).map (line.length + 2 + ·) := by
  have hcr : ¬ blankLine.isPrefixOf (13 :: 10 :: b :: bs) = true := by
    simp [blankLine, List.isPrefixOf, Ne.symm hb]
  have hlf : ¬ blankLine.isPrefixOf (10 :: b :: bs) = true := by
    simp [blankLine, List.isPrefixOf]
  have hne : blankLine ≠ [] := by decide
  have hskip : Bytes.indexOf? blankLine (crlf ++ b :: bs) =
      ((Bytes.indexOf? blankLine (b :: bs)).map (· + 1)).map (· + 1) := by
    show Bytes.indexOf? blankLine (13 :: 10 :: b :: bs) = _
    rw [Bytes.indexOf?_cons hne, if_neg hcr, Bytes.indexOf?_cons hne, if_neg hlf]
  unfold blankLine at hskip ⊢
  rw [Bytes.indexOf?_append_of_not_mem hline, hskip, Option.map_map, Option.map_map]
  congr 1
  funext k
  simp only [Function.comp_apply]
  omega

theorem exists_utf8_eq_cons {l : String} (hne : l ≠ "") (hcr : '\r' ∉ l.toList) :
    ∃ b bs, utf8 l = b :: bs ∧ b ≠ 13 := by
  have hfree := not_mem_utf8 hcr
  cases hbytes : utf8 l with
  | nil => exact absurd (utf8_eq_nil_iff.1 hbytes) hne
  | cons b bs =>
      refine ⟨b, bs, rfl, ?_⟩
      rintro rfl
      rw [hbytes] at hfree
      exact hfree List.mem_cons_self

/-- Behind lines that are not empty the blank line is the first one. -/
theorem indexOf?_blankLine (hne : ls ≠ []) (h : ∀ l ∈ ls, l ≠ "" ∧ '\r' ∉ l.toList)
    (rest : Bytes) :
    Bytes.indexOf? blankLine (utf8 ("\r\n".intercalate ls) ++ (blankLine ++ rest)) =
      some (utf8 ("\r\n".intercalate ls)).length := by
  induction ls with
  | nil => contradiction
  | cons l ls ih =>
      have hline : 13 ∉ utf8 l := not_mem_utf8 (h l List.mem_cons_self).2
      cases ls with
      | nil =>
          have hfirst : Bytes.indexOf? blankLine (blankLine ++ rest) = some 0 :=
            Bytes.indexOf?_self_append (by decide) rest
          rw [String.intercalate_singleton, blankLine, Bytes.indexOf?_append_of_not_mem hline,
            ← blankLine, hfirst]
          rfl
      | cons l' ls =>
          have hlater := ih (by simp) fun x hx => h x (List.mem_cons_of_mem _ hx)
          have hl' := h l' (List.mem_cons_of_mem _ List.mem_cons_self)
          obtain ⟨more, hmore⟩ := exists_utf8_intercalate_cons l' ls
          obtain ⟨b, bs, hbytes, hb⟩ := exists_utf8_eq_cons hl'.1 hl'.2
          have hnext : utf8 ("\r\n".intercalate (l' :: ls)) ++ (blankLine ++ rest) =
              b :: (bs ++ more ++ (blankLine ++ rest)) := by
            rw [hmore, hbytes]
            rfl
          have hlength : (utf8 l ++ (crlf ++ utf8 ("\r\n".intercalate (l' :: ls)))).length =
              (utf8 l).length + 2 + (utf8 ("\r\n".intercalate (l' :: ls))).length := by
            rw [List.length_append, List.length_append, ← Nat.add_assoc]
            rfl
          rw [utf8_intercalate_cons_cons, hlength, List.append_assoc, List.append_assoc, hnext,
            indexOf?_blankLine_of_line hline hb, ← hnext, hlater]
          rfl

end Wire

end WebServer
