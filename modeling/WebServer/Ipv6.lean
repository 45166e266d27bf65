import WebServer.Ipv4

/-!
# WebServer.Ipv6

IPv6 addresses: eight groups of 16 bits, written in hexadecimal between colons. A
double colon stands for one or more groups of zero, and the last two groups may be
written as an IPv4 address.

Main statement: an address that has been read has eight groups
(`length_of_ofText?`).
-/

namespace WebServer

/-- An IPv6 address, as its groups. -/
structure Ipv6 where
  groups : List Nat
deriving DecidableEq, Inhabited

namespace Ipv6

/-- Whether a character is a hexadecimal digit. -/
def isHex (c : Char) : Bool := (digitValue c).isSome

/-- The groups that a text writes, where it does not follow a group; `none` stands
for a double colon, whose first colon has been read. -/
def parts? (cs : List Char) : Option (List (Option Nat)) :=
  match cs with
  | [] => some []
  | ':' :: rest => (parts? rest).map (none :: ·)
  | c :: more =>
      let digits := ((c :: more).take 4).takeWhile isHex
      match digits? 16 digits, h : (c :: more).drop digits.length with
      | some n, [] => some [some n]
      | some n, ':' :: rest =>
          if rest.isEmpty then none else (parts? rest).map (some n :: ·)
      | some _, '.' :: _ =>
          (Ipv4.ofQuad? (c :: more)).map fun a =>
            [some (a.value.toNat / 0x10000), some (a.value.toNat % 0x10000)]
      | _, _ => none
termination_by cs.length
decreasing_by
  · simp
  · have := congrArg List.length h
    simp only [List.length_drop, List.length_cons] at this ⊢
    omega

/-- Fills the gap of a double colon with zeros. -/
def fill? (parts : List (Option Nat)) : Option (List Nat) :=
  let before := (parts.takeWhile Option.isSome).filterMap id
  match parts.dropWhile Option.isSome with
  | [] => if before.length = 8 then some before else none
  | _ :: rest =>
      let after := rest.filterMap id
      if rest.all Option.isSome && before.length + after.length < 8 then
        some (before ++ List.replicate (8 - (before.length + after.length)) 0 ++ after)
      else none

/-- Reads an address. -/
def ofText? (cs : List Char) : Option Ipv6 :=
  let parts :=
    match cs with
    | ':' :: ':' :: rest => (parts? rest).map (none :: ·)
    | ':' :: _ => none
    | _ => parts? cs
  (parts.bind fill?).map Ipv6.mk

theorem length_of_fill? {parts : List (Option Nat)} {groups : List Nat}
    (h : fill? parts = some groups) : groups.length = 8 := by
  unfold fill? at h
  dsimp only at h
  split at h
  · split at h
    · next hl => exact (Option.some.inj h) ▸ hl
    · cases h
  · split at h
    · next hl =>
        obtain rfl := Option.some.inj h
        simp only [Bool.and_eq_true, decide_eq_true_eq] at hl
        simp only [List.length_append, List.length_replicate]
        omega
    · cases h

/-- An address has eight groups. -/
theorem length_of_ofText? {cs : List Char} {a : Ipv6} (h : ofText? cs = some a) :
    a.groups.length = 8 := by
  obtain ⟨groups, hg, rfl⟩ := Option.map_eq_some_iff.1 h
  obtain ⟨_, _, hf⟩ := Option.bind_eq_some_iff.1 hg
  exact length_of_fill? hf

/-- Whether an address is the one that stands for all addresses of a machine. -/
def isUnspecified (a : Ipv6) : Bool := a.groups.all (· = 0)

/-- Whether an address stands for an IPv4 address. -/
def isMapped (a : Ipv6) : Bool := a.groups.take 6 = [0, 0, 0, 0, 0, 0xFFFF]

end Ipv6

end WebServer
