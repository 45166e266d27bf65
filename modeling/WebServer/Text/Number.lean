/-!
# WebServer.Text.Number

Unsigned 64-bit numerals: digits in a base up to sixteen, with one optional
leading plus sign. A sign alone, an empty text, any other character or a value
of `2 ^ 64` or more is no numeral.
-/

namespace WebServer

/-- The value of a digit; letters of either case follow the nine. -/
def digitValue (c : Char) : Option Nat :=
  if '0' ≤ c ∧ c ≤ '9' then some (c.toNat - '0'.toNat)
  else if 'a' ≤ c ∧ c ≤ 'f' then some (c.toNat - 'a'.toNat + 10)
  else if 'A' ≤ c ∧ c ≤ 'F' then some (c.toNat - 'A'.toNat + 10)
  else none

/-- The value of a digit of base `base`. -/
def digitIn? (base : Nat) (c : Char) : Option Nat :=
  (digitValue c).filter (· < base)

/-- The number that digits spell, continuing from `n`. -/
def digitsFrom? (base : Nat) : Nat → List Char → Option Nat
  | n, [] => some n
  | n, c :: cs => (digitIn? base c).bind fun d => digitsFrom? base (n * base + d) cs

/-- The number that a non-empty run of digits spells. -/
def digits? (base : Nat) : List Char → Option Nat
  | [] => none
  | c :: cs => digitsFrom? base 0 (c :: cs)

/-- The first number that a 64-bit word cannot hold. -/
def wordLimit : Nat := 0x10000000000000000

/-- Reads an unsigned 64-bit numeral. -/
def unsigned? (base : Nat) (cs : List Char) : Option Nat :=
  let body := match cs with
    | '+' :: rest => rest
    | _ => cs
  (digits? base body).filter (· < wordLimit)

/-- Reads a decimal numeral. -/
def decimal? (s : String) : Option Nat := unsigned? 10 s.toList

/-- The digits of a byte in lower-case hexadecimal, two of them. -/
def hexPair (b : UInt8) : List Char :=
  [Nat.digitChar (b.toNat / 16), Nat.digitChar (b.toNat % 16)]

end WebServer
