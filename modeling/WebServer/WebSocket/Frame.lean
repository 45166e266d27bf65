import WebServer.Bytes

/-!
# WebServer.WebSocket.Frame

The frames of the WebSocket protocol:

```
byte 0:  fin | three reserved bits | opcode (4)
byte 1:  masked | length (7);  126: two more bytes, 127: eight more bytes
then:    the masking key (4 bytes) if masked, and the payload
```

Control frames are never fragmented and carry at most 125 bytes.
-/

namespace WebServer

namespace WebSocket

/-! ## Close codes -/

namespace CloseCode

/-- The purpose is fulfilled. -/
def normal : UInt16 := 1000
/-- An endpoint goes away. -/
def goingAway : UInt16 := 1001
/-- The peer broke the protocol. -/
def protocolError : UInt16 := 1002
/-- The endpoint does not take data of this kind. -/
def unsupportedData : UInt16 := 1003
/-- The peer gave no code; never sent. -/
def noStatus : UInt16 := 1005
/-- Text that is not UTF-8. -/
def invalidPayload : UInt16 := 1007
/-- A message beyond the limit. -/
def messageTooBig : UInt16 := 1009
/-- The handler failed. -/
def internalError : UInt16 := 1011

/-- Whether a code may stand in a Close frame. -/
def isSendable (code : UInt16) : Bool :=
  (1000 ≤ code && code ≤ 1003) || (1007 ≤ code && code ≤ 1014) || (3000 ≤ code && code ≤ 4999)

end CloseCode

/-! ## Opcodes -/

/-- What a frame is. -/
inductive Opcode where
  | continuation | text | binary | close | ping | pong
deriving DecidableEq, Inhabited, Repr

namespace Opcode

/-- The number of an opcode. -/
def code : Opcode → UInt8
  | .continuation => 0
  | .text => 1
  | .binary => 2
  | .close => 8
  | .ping => 9
  | .pong => 10

/-- The opcode of a number. -/
def ofCode? (n : UInt8) : Option Opcode :=
  if n = 0 then some .continuation
  else if n = 1 then some .text
  else if n = 2 then some .binary
  else if n = 8 then some .close
  else if n = 9 then some .ping
  else if n = 10 then some .pong
  else none

@[simp] theorem ofCode?_code (o : Opcode) : ofCode? o.code = some o := by
  cases o <;> decide

/-- Whether frames of the opcode control the connection. -/
def isControl : Opcode → Bool
  | .close | .ping | .pong => true
  | _ => false

end Opcode

/-! ## Errors -/

/-- How a peer breaks the framing or the order of frames. -/
inductive FrameError where
  | reservedBits
  | unknownOpcode (code : UInt8)
  | fragmentedControl
  | controlTooLarge
  | tooLarge (limit : Nat)
  | unmasked
  | unexpectedContinuation
  | interleavedMessage
  | invalidUtf8
deriving DecidableEq, Repr

namespace FrameError

/-- The wording of an error. -/
def message : FrameError → String
  | .reservedBits => "reserved bits set without a negotiated extension"
  | .unknownOpcode n => "unknown opcode 0x" ++ String.ofList (Nat.toDigits 16 n.toNat)
  | .fragmentedControl => "fragmented control frame"
  | .controlTooLarge => "control frame payload exceeds 125 bytes"
  | .tooLarge n => "payload exceeds " ++ toString n ++ " bytes"
  | .unmasked => "client frame is not masked"
  | .unexpectedContinuation => "continuation frame without a message in progress"
  | .interleavedMessage => "new data frame while a fragmented message is in progress"
  | .invalidUtf8 => "text message is not valid UTF-8"

/-- The code with which the connection is closed on an error. -/
def closeCode : FrameError → UInt16
  | .tooLarge _ => CloseCode.messageTooBig
  | .invalidUtf8 => CloseCode.invalidPayload
  | _ => CloseCode.protocolError

end FrameError

/-! ## Frames -/

/-- A frame, its payload unmasked. -/
structure Frame where
  fin : Bool := true
  opcode : Opcode
  /-- Whether it arrived masked. -/
  masked : Bool := false
  payload : Bytes
deriving DecidableEq, Inhabited

/-- A masking key. -/
structure MaskKey where
  k0 : UInt8
  k1 : UInt8
  k2 : UInt8
  k3 : UInt8
deriving DecidableEq, Inhabited

namespace MaskKey

/-- The key's byte for an offset. -/
def byteAt (k : MaskKey) (i : Nat) : UInt8 :=
  match i % 4 with
  | 0 => k.k0
  | 1 => k.k1
  | 2 => k.k2
  | _ => k.k3

/-- The key's bytes. -/
def bytes (k : MaskKey) : Bytes := [k.k0, k.k1, k.k2, k.k3]

/-- Masks data, or unmasks it. -/
def apply (k : MaskKey) (data : Bytes) : Bytes := data.mapIdx fun i b => b ^^^ k.byteAt i

/-- Masking twice changes nothing. -/
theorem apply_apply (k : MaskKey) (data : Bytes) : k.apply (k.apply data) = data := by
  apply List.ext_getElem
  · simp [apply]
  · intro i h1 h2
    simp only [apply, List.getElem_mapIdx]
    rw [UInt8.xor_assoc, UInt8.xor_self, UInt8.xor_zero]

end MaskKey

/-- The most bytes a control frame carries. -/
def maxControlPayload : Nat := 125

/-- The longest beginning of a text that has at most `n` bytes. -/
def cutText : Nat → List Char → List Char
  | _, [] => []
  | n, c :: cs => if c.utf8Size ≤ n then c :: cutText (n - c.utf8Size) cs else []

/-- The two bytes of a code, higher first. -/
def bigEndian16 (n : Nat) : Bytes := [UInt8.ofNat (n / 256), UInt8.ofNat (n % 256)]

/-- The eight bytes of a number, highest first. -/
def bigEndian64 (n : Nat) : Bytes :=
  (List.range 8).map fun i => UInt8.ofNat (n >>> (8 * (7 - i)) % 256)

/-- The number that bytes make, highest first. -/
def ofBigEndian (bs : Bytes) : Nat := bs.foldl (fun n b => n * 256 + b.toNat) 0

namespace Frame

/-- A whole text message. -/
def text (s : String) : Frame := { opcode := .text, payload := utf8 s }

/-- A whole binary message. -/
def binary (data : Bytes) : Frame := { opcode := .binary, payload := data }

/-- A ping. -/
def ping (data : Bytes) : Frame := { opcode := .ping, payload := data }

/-- The answer to a ping. -/
def pong (data : Bytes) : Frame := { opcode := .pong, payload := data }

/-- A close with a code and as much of a reason as fits. -/
def close (code : UInt16) (reason : String) : Frame :=
  { opcode := .close
    payload := bigEndian16 code.toNat ++
      utf8 (String.ofList (cutText (maxControlPayload - 2) reason.toList)) }

/-- The code of a close frame, if it carries one. -/
def closeCode? (f : Frame) : Option UInt16 :=
  match f.opcode, f.payload with
  | .close, hi :: lo :: _ => some (UInt16.ofNat (hi.toNat * 256 + lo.toNat))
  | _, _ => none

/-! ## Reading -/

/-- The payload length that a seven-bit length and the bytes behind it denote,
and how many of those bytes it takes; `none` until they are there. -/
def lengthField (short : Nat) (bs : Bytes) : Option (Nat × Nat) :=
  if short = 126 then
    let raw := bs.take 2
    if raw.length < 2 then none else some (ofBigEndian raw, 2)
  else if short = 127 then
    let raw := bs.take 8
    if raw.length < 8 then none else some (ofBigEndian raw, 8)
  else some (short, 0)

/-- The payload of `n` bytes behind an optional masking key; `none` until it is
there. -/
def payload? (masked : Bool) (n : Nat) (bs : Bytes) : Option Bytes :=
  if masked then
    match bs with
    | a :: b :: c :: d :: rest =>
        let raw := rest.take n
        if raw.length < n then none else some ((MaskKey.mk a b c d).apply raw)
    | _ => none
  else
    let raw := bs.take n
    if raw.length < n then none else some raw

/-- Reads the frame in front of a buffer, and the bytes it took; `none` until it
is there whole. A payload of more than `limit` bytes is refused. -/
def parse (buf : Bytes) (limit : Nat) : Except FrameError (Option (Frame × Nat)) :=
  match buf with
  | b0 :: b1 :: rest =>
      if b0 &&& 0x70 ≠ 0 then .error .reservedBits
      else
        match Opcode.ofCode? (b0 &&& 0x0F) with
        | none => .error (.unknownOpcode (b0 &&& 0x0F))
        | some opcode =>
            let fin := b0 &&& 0x80 ≠ 0
            let masked := b1 &&& 0x80 ≠ 0
            match lengthField (b1 &&& 0x7F).toNat rest with
            | none => .ok none
            | some (n, k) =>
                if opcode.isControl && !fin then .error .fragmentedControl
                else if opcode.isControl && maxControlPayload < n then .error .controlTooLarge
                else if limit < n then .error (.tooLarge limit)
                else
                  match payload? masked n (rest.drop k) with
                  | none => .ok none
                  | some payload =>
                      .ok (some ({ fin, opcode, masked, payload },
                        2 + k + (if masked then 4 else 0) + n))
  | _ => .ok none

/-! ## Writing -/

/-- The seven-bit length of a payload and the bytes that extend it. -/
def lengthBytes (maskBit : UInt8) (n : Nat) : Bytes :=
  if n < 126 then [maskBit ||| UInt8.ofNat n]
  else if n < 0x10000 then (maskBit ||| 126) :: bigEndian16 n
  else (maskBit ||| 127) :: bigEndian64 n

/-- Writes a frame, masked with a key if there is one. -/
def encode (f : Frame) (key : Option MaskKey) : Bytes :=
  let first := (if f.fin then 0x80 else 0) ||| f.opcode.code
  match key with
  | none => first :: lengthBytes 0 f.payload.length ++ f.payload
  | some k => first :: lengthBytes 0x80 f.payload.length ++ k.bytes ++ k.apply f.payload

end Frame

end WebSocket

end WebServer
