import WebServer.Text.Number

/-!
# WebServer.Ipv4

IPv4 addresses and their two notations: four decimal bytes between dots, and the
loose one of one to four numbers, in which the last number fills the bytes that
are left.

Main statement: four bytes are an address, whose bytes they are
(`bytes_ofBytes`).
-/

namespace WebServer

/-- An IPv4 address. -/
structure Ipv4 where
  value : UInt32
deriving DecidableEq, Inhabited

namespace Ipv4

/-- The address that numbers write. All but the last are bytes, and the last fills
the rest of the four bytes. -/
def ofParts? (ns : List Nat) : Option Ipv4 :=
  match ns.getLast? with
  | none => none
  | some last =>
      let room := 1 <<< (8 * (5 - ns.length))
      if ns.length ≤ 4 && ns.dropLast.all (· ≤ 255) && last < room then
        some ⟨UInt32.ofNat (ns.dropLast.foldl (fun v n => v * 256 + n) 0 * room + last)⟩
      else none

/-- The bytes of an address, the highest first. -/
def bytes (a : Ipv4) : List Nat :=
  let n := a.value.toNat
  [n >>> 24, n >>> 16 % 256, n >>> 8 % 256, n % 256]

/-- Four bytes are the bytes of their address. -/
theorem bytes_ofBytes {a b c d : Nat} (ha : a ≤ 255) (hb : b ≤ 255) (hc : c ≤ 255)
    (hd : d ≤ 255) : (ofParts? [a, b, c, d]).map bytes = some [a, b, c, d] := by
  have h : a * 2 ^ 24 + b * 2 ^ 16 + c * 2 ^ 8 + d < 2 ^ 32 := by omega
  simp [ofParts?, bytes, ha, hb, hc]
  omega

/-! ## Notations -/

/-- Reads a number of the loose notation: decimal, octal behind `0`, hexadecimal
behind `0x`. -/
def number? (cs : List Char) : Option Nat :=
  match cs with
  | '0' :: 'x' :: ds | '0' :: 'X' :: ds => digits? 16 ds
  | '0' :: d :: ds => digits? 8 (d :: ds)
  | ds => digits? 10 ds

/-- Reads an address in the loose notation. -/
def ofLoose? (cs : List Char) : Option Ipv4 :=
  ((cs.splitOn '.').mapM number?).bind ofParts?

/-- Reads a decimal byte without needless zeros. -/
def byte? (cs : List Char) : Option Nat :=
  match cs with
  | '0' :: _ :: _ => none
  | _ => (digits? 10 cs).filter (· ≤ 255)

/-- Reads four decimal bytes between dots. -/
def ofQuad? (cs : List Char) : Option Ipv4 :=
  let parts := cs.splitOn '.'
  if parts.length = 4 then (parts.mapM byte?).bind ofParts? else none

end Ipv4

end WebServer
