import WebServer.Bytes
import WebServer.Text.Number

/-!
# WebServer.Text.Lossy

Text from bytes that may not be UTF-8, and percent coding. Bytes that are no
part of a well-formed sequence read as U+FFFD, one for each longest beginning
of a well-formed sequence and one for each byte that begins none.
-/

namespace WebServer

/-! ## Replacement -/

/-- Stands for bytes that are not text. -/
def replacement : Char := '\uFFFD'

/-- Whether a byte continues a sequence. -/
def isContinuation (b : UInt8) : Bool := 0x80 ≤ b && b ≤ 0xBF

/-- Whether `b` may follow the first byte `a` of a sequence of three or four. -/
def isSecond (a b : UInt8) : Bool :=
  if a = 0xE0 then 0xA0 ≤ b && b ≤ 0xBF
  else if a = 0xED then 0x80 ≤ b && b ≤ 0x9F
  else if a = 0xF0 then 0x90 ≤ b && b ≤ 0xBF
  else if a = 0xF4 then 0x80 ≤ b && b ≤ 0x8F
  else isContinuation b

/-- The six low bits of a continuation byte, below `n`. -/
def sixMore (n : Nat) (b : UInt8) : Nat := n * 64 + b.toNat % 64

/-- The characters of a byte string behind those in `acc`, latest first. -/
def lossyFrom (acc : List Char) : Bytes → List Char
  | [] => acc.reverse
  | a :: bs =>
      if a < 0x80 then lossyFrom (Char.ofNat a.toNat :: acc) bs
      else if 0xC2 ≤ a ∧ a ≤ 0xDF then
        match bs with
        | b :: bs' =>
            if isContinuation b then lossyFrom (Char.ofNat (sixMore (a.toNat % 32) b) :: acc) bs'
            else lossyFrom (replacement :: acc) (b :: bs')
        | [] => lossyFrom (replacement :: acc) []
      else if 0xE0 ≤ a ∧ a ≤ 0xEF then
        match bs with
        | b :: c :: bs' =>
            if isSecond a b then
              if isContinuation c then
                lossyFrom (Char.ofNat (sixMore (sixMore (a.toNat % 16) b) c) :: acc) bs'
              else lossyFrom (replacement :: acc) (c :: bs')
            else lossyFrom (replacement :: acc) (b :: c :: bs')
        | [b] =>
            if isSecond a b then lossyFrom (replacement :: acc) []
            else lossyFrom (replacement :: acc) [b]
        | [] => lossyFrom (replacement :: acc) []
      else if 0xF0 ≤ a ∧ a ≤ 0xF4 then
        match bs with
        | b :: bs' =>
            if isSecond a b then
              match bs' with
              | c :: bs'' =>
                  if isContinuation c then
                    match bs'' with
                    | d :: rest =>
                        if isContinuation d then
                          lossyFrom (Char.ofNat
                            (sixMore (sixMore (sixMore (a.toNat % 8) b) c) d) :: acc) rest
                        else lossyFrom (replacement :: acc) (d :: rest)
                    | [] => lossyFrom (replacement :: acc) []
                  else lossyFrom (replacement :: acc) (c :: bs'')
              | [] => lossyFrom (replacement :: acc) []
            else lossyFrom (replacement :: acc) (b :: bs')
        | [] => lossyFrom (replacement :: acc) []
      else lossyFrom (replacement :: acc) bs
termination_by bs => bs.length
decreasing_by all_goals (simp only [List.length_cons, List.length_nil]; omega)

/-- The text of a byte string, with replacements where it is none. -/
def lossyText (bs : Bytes) : String :=
  match text? bs with
  | some s => s
  | none => String.ofList (lossyFrom [] bs)

/-- Well-formed text is read as it is. -/
theorem lossyText_utf8 (s : String) : lossyText (utf8 s) = s := by
  simp [lossyText, text?_utf8]

/-! ## Percent coding -/

/-- The value of an ASCII hexadecimal digit. -/
def hexOfByte? (b : UInt8) : Option Nat := digitIn? 16 (Char.ofNat b.toNat)

/-- Undoes percent coding behind the bytes in `acc`, latest first; a percent sign
that no two hexadecimal digits follow stands for itself. -/
def percentDecodeFrom (acc : Bytes) : Bytes → Bytes
  | [] => acc.reverse
  | 37 :: x :: y :: bs =>
      match hexOfByte? x, hexOfByte? y with
      | some h, some l => percentDecodeFrom (UInt8.ofNat (16 * h + l) :: acc) bs
      | _, _ => percentDecodeFrom (37 :: acc) (x :: y :: bs)
  | b :: bs => percentDecodeFrom (b :: acc) bs

/-- Undoes percent coding. -/
def percentDecode (bs : Bytes) : Bytes := percentDecodeFrom [] bs

/-- A byte in percent coding. -/
def percentByte (b : UInt8) : List Char := '%' :: (hexPair b).map Char.toUpper

/-- A character in percent coding, if it is beyond ASCII, a control, or in `more`. -/
def percentChar (more : List Char) (c : Char) : List Char :=
  if c.toNat < 0x80 && 0x20 ≤ c.toNat && c.toNat != 0x7F && !more.contains c then [c]
  else (utf8 (String.singleton c)).flatMap percentByte

end WebServer
