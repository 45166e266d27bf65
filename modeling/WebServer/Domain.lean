import WebServer.Domain.Label
import WebServer.Domain.Mapping
import WebServer.Domain.Punycode
import WebServer.Unicode.Normal

/-!
# WebServer.Domain

Domain names: labels between dots. Names that differ only in the case or form of
their letters are the same name, so a name is kept as its labels in small letters
of composed text. A label beyond ASCII may also be written in ASCII behind
`xn--`, and is then read.

Main statement: the plain letters and digits of ASCII are read as they are
(`ofText?_of_plain`).
-/

namespace WebServer

/-- A domain name, as its labels. -/
structure Domain where
  labels : List (List Char)
deriving DecidableEq, Inhabited

namespace Domain

open Unicode

/-- What a label in ASCII begins with that stands for one beyond ASCII. -/
def encodedMark : List Char := ['x', 'n', '-', '-']

/-- The most characters behind `xn--`. -/
def longestEncoded : Nat := 2000

/-- ASCII characters that no name holds, besides controls and the blank. -/
def delimiters : List Char :=
  ['%', '#', '/', ':', '<', '>', '?', '@', '[', '\\', ']', '^', '|', '\x7F']

/-- Whether a character of composed text may stand in a name. -/
def isNameChar (c : Char) : Bool := 0x20 < c.toNat && !delimiters.contains c

/-- Whether a readable label is in the form in which names are kept. -/
def isKept (cs : List Char) : Bool :=
  map? cs = some cs && normalize cs = cs && cs.all fun c => isNameChar c && c != '.'

/-- The readable form of the text behind `xn--`. -/
def decodeLabel? (cs : List Char) : Option (List Char) :=
  if cs.isEmpty || cs.getLast? = some '-' || cs.any isWide || longestEncoded < cs.length then none
  else (Punycode.decode? cs).filter fun label => !label.isEmpty && isKept label

/-- The readable form of a label. -/
def readLabel? (cs : List Char) : Option (List Char) :=
  let label := if encodedMark.isPrefixOf cs then decodeLabel? (cs.drop 4) else some cs
  label.filter isLabel

/-- The name that composed text writes. -/
def ofComposed? (text : List Char) : Option Domain :=
  if text.isEmpty || !text.all isNameChar then none
  else
    match (text.splitOn '.').mapM readLabel? with
    | none => none
    | some labels => if directionsFit labels then some ⟨labels⟩ else none

/-- Reads a domain name. -/
def ofText? (cs : List Char) : Option Domain :=
  (map? cs).bind fun text => ofComposed? (normalize text)

/-- The name of this machine. -/
def localhost : Domain := ⟨["localhost".toList]⟩

/-! ## Plain names -/

theorem mapM_some {f : α → Option β} {g : α → β} {as : List α} (h : ∀ a ∈ as, f a = some (g a)) :
    as.mapM f = some (as.map g) := by
  induction as with
  | nil => rfl
  | cons a as ih =>
      simp [List.mapM_cons, h a (by simp), ih fun b hb => h b (by simp [hb])]

/-- A small letter or a digit of ASCII. -/
def isPlainNameChar (c : Char) : Bool := c.isLower || c.isDigit

theorem val_of_isPlainNameChar {c : Char} (h : isPlainNameChar c) :
    (97 ≤ c.toNat ∧ c.toNat ≤ 122) ∨ (48 ≤ c.toNat ∧ c.toNat ≤ 57) := by
  have hlower : c.isLower = (decide (c.val ≥ 'a'.val) && decide (c.val ≤ 'z'.val)) := rfl
  simpa [isPlainNameChar, hlower, Char.isDigit, UInt32.le_iff_toNat_le] using h

theorem isNameChar_of_isPlainNameChar {c : Char} (h : isPlainNameChar c) : isNameChar c := by
  have hv := val_of_isPlainNameChar h
  have hd : delimiters.all fun d => !isPlainNameChar d := by decide
  have hc : c ∉ delimiters := fun hm => by simpa [h] using List.all_eq_true.1 hd c hm
  simp only [isNameChar, Bool.and_eq_true, decide_eq_true_eq, Bool.not_eq_true']
  exact ⟨by omega, by simpa using hc⟩

theorem mapChar?_of_isPlainNameChar {c : Char} (h : isPlainNameChar c) :
    mapChar? c = some [c] := by
  have hv := val_of_isPlainNameChar h
  have hl : c.toLower = c := by
    unfold Char.toLower
    refine dif_neg fun hu => ?_
    have h1 : 65 ≤ c.toNat := hu.1
    have h2 : c.toNat ≤ 90 := hu.2
    omega
  unfold mapChar?
  rw [if_pos (by omega), hl]

theorem map?_of_plain {cs : List Char} (h : ∀ c ∈ cs, isPlainNameChar c) :
    map? cs = some cs := by
  have hf : (cs.map fun c => [c]).flatten = cs := by
    induction cs with
    | nil => rfl
    | cons c cs ih => simp [ih fun d hd => h d (by simp [hd])]
  rw [map?, mapM_some fun c hc => mapChar?_of_isPlainNameChar (h c hc), Option.map_some, hf]

theorem readLabel?_of_plain {cs : List Char} (h : ∀ c ∈ cs, isPlainNameChar c) :
    readLabel? cs = some cs := by
  have hx : encodedMark.isPrefixOf cs = false := by
    rw [Bool.eq_false_iff]
    intro hp
    obtain ⟨rest, rfl⟩ := List.isPrefixOf_iff_prefix.1 hp
    exact absurd (h '-' (by simp [encodedMark])) (by decide)
  have hw : cs.any isWide = false := by
    rw [List.any_eq_false]
    intro c hc
    have := val_of_isPlainNameChar (h c hc)
    simp only [isWide, decide_eq_true_eq]
    omega
  simp [readLabel?, hx, isLabel, hw]

theorem direction_of_isPlainNameChar {c : Char} (h : isPlainNameChar c) :
    direction c = .leftToRight ∨ direction c = .europeanNumber := by
  unfold direction
  by_cases ha : c.isAlpha
  · exact .inl (if_pos ha)
  · rw [if_neg ha]
    refine .inr (if_pos ?_)
    simp only [isPlainNameChar, Bool.or_eq_true] at h
    have halpha : c.isAlpha = (c.isUpper || c.isLower) := rfl
    simp only [halpha, Bool.or_eq_true, not_or] at ha
    exact h.resolve_left ha.2

/-- Small letters and digits are a name of one label, and are read as they are. -/
theorem ofText?_of_plain {cs : List Char} (hne : cs ≠ []) (h : ∀ c ∈ cs, isPlainNameChar c) :
    ofText? cs = some ⟨[cs]⟩ := by
  have hn : normalize cs = cs := normalize_of_plain fun c hc => by
    have := val_of_isPlainNameChar (h c hc)
    simp only [isPlain, decide_eq_true_eq]
    omega
  have hc : cs.all isNameChar :=
    List.all_eq_true.2 fun c hc => isNameChar_of_isPlainNameChar (h c hc)
  have hs : cs.splitOn '.' = [cs] :=
    List.splitOn_eq_singleton fun hm => absurd (h '.' hm) (by decide)
  have hd : directionsFit [cs] := by
    have : (cs.map direction).any leftward.contains = false := by
      rw [List.any_eq_false]
      intro d hd
      obtain ⟨c, hc, rfl⟩ := List.mem_map.1 hd
      rcases direction_of_isPlainNameChar (h c hc) with he | he <;> rw [he] <;> decide
    simp only [directionsFit, List.map_cons, List.map_nil, List.any_cons, List.any_nil, this]
    rfl
  have hm : [cs].mapM readLabel? = some [cs] := by simp [List.mapM_cons, readLabel?_of_plain h]
  have he : cs.isEmpty = false := List.isEmpty_eq_false_iff.2 hne
  rw [ofText?, map?_of_plain h, Option.bind_some, hn, ofComposed?, he, hc, hs, hm]
  simp [hd]

end Domain

end WebServer
