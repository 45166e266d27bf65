import WebServer.Text.Lossy

/-!
# WebServer.Text.Boundary

Offsets into the bytes of a text. An offset stands between two characters if the byte behind it
continues none; the two ends of the text stand so too. From any offset the one that stands so
before it is found by going back byte by byte.
-/

namespace WebServer

/-- Whether an offset into the bytes of a text is at an end of it or between two characters. -/
def isBoundary (bs : Bytes) (i : Nat) : Bool :=
  if i = 0 then true
  else
    match bs[i]? with
    | some b => !isContinuation b
    | none => i = bs.length

/-- Goes back from an offset to one between two characters; `none` if that takes it below zero. -/
def backToBoundary? (bs : Bytes) : Nat → Option Nat
  | 0 => if isBoundary bs 0 then some 0 else none
  | i + 1 => if isBoundary bs (i + 1) then some (i + 1) else backToBoundary? bs i

@[simp] theorem isBoundary_zero (bs : Bytes) : isBoundary bs 0 = true := rfl

theorem isBoundary_of_getElem? {bs : Bytes} {i : Nat} {b : UInt8} (hi : i ≠ 0)
    (hb : bs[i]? = some b) : isBoundary bs i = !isContinuation b := by
  rw [isBoundary, if_neg hi, hb]

theorem isBoundary_of_length_le {bs : Bytes} {i : Nat} (hi : i ≠ 0) (hle : bs.length ≤ i) :
    isBoundary bs i = decide (i = bs.length) := by
  rw [isBoundary, if_neg hi, List.getElem?_eq_none hle]

end WebServer
