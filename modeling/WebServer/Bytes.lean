/-!
# WebServer.Bytes

Byte strings as lists, the bridge between bytes and text, and the search for a
delimiter inside a byte string.

Main statements: encoding and decoding are inverse (`text?_utf8`,
`utf8_of_text?`), and the offset reported by `Bytes.indexOf?` is that of an
occurrence (`isPrefixOf_drop_of_indexOf?`).
-/

namespace WebServer

/-- A byte string. -/
abbrev Bytes := List UInt8

/-! ## Text and bytes -/

/-- The UTF-8 bytes of a text. -/
def utf8 (s : String) : Bytes := s.toUTF8.data.toList

/-- The text a byte string spells, if it is well-formed UTF-8: no surrogate, no
overlong form, nothing beyond U+10FFFF. -/
def text? (bs : Bytes) : Option String := String.fromUTF8? ⟨bs.toArray⟩

/-- Decoding undoes encoding. -/
theorem text?_utf8 (s : String) : text? (utf8 s) = some s := by
  unfold text? utf8 String.fromUTF8?
  simp only [Array.toArray_toList]
  exact dif_pos s.isValidUTF8

/-- A decoded text encodes to the bytes it came from. -/
theorem utf8_of_text? {bs : Bytes} {s : String} (h : text? bs = some s) : utf8 s = bs := by
  unfold text? String.fromUTF8? at h
  split at h
  · rw [Option.some.injEq] at h
    subst h
    rfl
  · contradiction

/-! ## Delimiters -/

/-- The line end of the wire format. -/
def crlf : Bytes := [13, 10]

/-- The blank line that ends a head. -/
def blankLine : Bytes := [13, 10, 13, 10]

namespace Bytes

/-- Offset of the first occurrence of `needle`, counting from `i`. -/
def indexFrom (needle : Bytes) : Nat → Bytes → Option Nat
  | _, [] => none
  | i, b :: bs => if needle.isPrefixOf (b :: bs) then some i else indexFrom needle (i + 1) bs

/-- Offset of the first occurrence of a non-empty `needle`. -/
def indexOf? (needle hay : Bytes) : Option Nat :=
  if needle.isEmpty then none else indexFrom needle 0 hay

theorem indexFrom_add (needle hay : Bytes) (i k : Nat) :
    indexFrom needle (i + k) hay = (indexFrom needle i hay).map (· + k) := by
  induction hay generalizing i with
  | nil => rfl
  | cons b bs ih =>
      unfold indexFrom
      split
      · rfl
      · rw [Nat.add_right_comm, ih]

/-- What `indexFrom` finds is an occurrence, at or after the start. -/
theorem isPrefixOf_drop_of_indexFrom {needle hay : Bytes} {i k : Nat}
    (h : indexFrom needle i hay = some k) :
    i ≤ k ∧ k - i < hay.length ∧ needle.isPrefixOf (hay.drop (k - i)) = true := by
  induction hay generalizing i with
  | nil => simp [indexFrom] at h
  | cons b bs ih =>
      unfold indexFrom at h
      split at h
      · next hp =>
          obtain rfl : i = k := by simpa using h
          simp [hp]
      · obtain ⟨h1, h2, h3⟩ := ih h
        have he : k - i = (k - (i + 1)) + 1 := by omega
        refine ⟨by omega, by rw [List.length_cons]; omega, ?_⟩
        rw [he, List.drop_succ_cons]
        exact h3

/-- What `indexOf?` finds is an occurrence. -/
theorem isPrefixOf_drop_of_indexOf? {needle hay : Bytes} {k : Nat}
    (h : indexOf? needle hay = some k) :
    k < hay.length ∧ needle.isPrefixOf (hay.drop k) = true := by
  unfold indexOf? at h
  split at h
  · contradiction
  · simpa using (isPrefixOf_drop_of_indexFrom h).2

end Bytes

end WebServer
