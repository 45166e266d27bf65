import WebServer.Text.Split

/-!
# WebServer.Domain.Punycode

Labels of domain names that are written in ASCII alone. The ASCII characters of
the label come first, and a hyphen ends them. Then each other character is
inserted, in the order of code points, by a number that counts the ways to insert
a character passed over since the last one. Numbers are written in base 36 with
the lowest digit first; a digit below the threshold of its place ends the number,
and the thresholds adapt to the size of the numbers before.

A number must fit into 32 bits, and so must the weights of its digits.

Main statement: reading a number takes at least one character
(`length_of_number?`), so that decoding ends.
-/

namespace WebServer

namespace Domain

namespace Punycode

/-- The value of a digit: letters come before the decimal digits. -/
def digit? (c : Char) : Option Nat :=
  if 'a' ≤ c ∧ c ≤ 'z' then some (c.toNat - 'a'.toNat)
  else if 'A' ≤ c ∧ c ≤ 'Z' then some (c.toNat - 'A'.toNat)
  else if '0' ≤ c ∧ c ≤ '9' then some (c.toNat - '0'.toNat + 26)
  else none

/-- The least digit that does not end a number at the place `k`. -/
def threshold (k bias : Nat) : Nat :=
  if k ≤ bias then 1 else if bias + 26 ≤ k then 26 else k - bias

/-- Brings a number below 456, counting 36 for each division by 35. -/
def scale (delta k : Nat) : Nat × Nat :=
  if 455 < delta then scale (delta / 35) (k + 36) else (delta, k)
termination_by delta
decreasing_by omega

/-- The bias behind the number `delta`, with `count` characters in the label. -/
def adapt (delta count : Nat) (isFirst : Bool) : Nat :=
  let d := if isFirst then delta / 700 else delta / 2
  let (d, k) := scale (d + d / count) 0
  k + 36 * d / (d + 38)

/-- The first number that does not fit. -/
def limit : Nat := 0x100000000

/-- Reads a number whose next digit has the place `k` and the weight `w`, onto the
sum `i` of those before. -/
def number? (bias : Nat) : (k w i : Nat) → List Char → Option (Nat × List Char)
  | _, _, _, [] => none
  | k, w, i, c :: cs =>
      match digit? c with
      | none => none
      | some d =>
          let t := threshold k bias
          if limit ≤ i + d * w then none
          else if d < t then some (i + d * w, cs)
          else if limit ≤ w * (36 - t) then none
          else number? bias (k + 36) (w * (36 - t)) (i + d * w) cs

/-- A number takes at least one character. -/
theorem length_of_number? {bias k w i n : Nat} {cs rest : List Char}
    (h : number? bias k w i cs = some (n, rest)) : rest.length < cs.length := by
  induction cs generalizing k w i with
  | nil => cases h
  | cons c cs ih =>
      unfold number? at h
      split at h
      · cases h
      · dsimp only at h
        split at h
        · cases h
        · split at h
          · obtain ⟨_, rfl⟩ := Prod.mk.inj (Option.some.inj h)
            simp
          · split at h
            · cases h
            · exact Nat.lt_succ_of_lt (ih h)

/-- Whether a number is a code point of a character. -/
def isCodePoint (n : Nat) : Bool := n < 0xD800 || (0xDFFF < n && n < 0x110000)

/-- Inserts the characters that the numbers in `cs` stand for, the first of them
with a code point of at least `n` at the place `i` or behind it. -/
def insertFrom (bias n i : Nat) (label cs : List Char) : Option (List Char) :=
  if cs.isEmpty then some label
  else
    match _h : number? bias 36 1 i cs with
    | none => none
    | some (j, rest) =>
        let count := label.length + 1
        let m := n + j / count
        if isCodePoint m then
          insertFrom (adapt (j - i) count (i = 0)) m (j % count + 1)
            (label.insertIdx (j % count) (Char.ofNat m)) rest
        else none
termination_by cs.length
decreasing_by exact length_of_number? _h

/-- The label that a text stands for. -/
def decode? (cs : List Char) : Option (List Char) :=
  match splitOnceLast '-' cs with
  | some (ascii, numbers) => insertFrom 72 0x80 0 ascii numbers
  | none => insertFrom 72 0x80 0 [] cs

end Punycode

end Domain

end WebServer
