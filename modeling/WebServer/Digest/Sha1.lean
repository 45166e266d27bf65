import WebServer.Bytes

/-!
# WebServer.Digest.Sha1

The SHA-1 digest of a byte string, as FIPS 180-4 defines it: the message is
padded to blocks of sixteen words, and each block is mixed into five words in
eighty rounds.
-/

namespace WebServer

namespace Sha1

/-- The chaining value. -/
structure State where
  a : UInt32
  b : UInt32
  c : UInt32
  d : UInt32
  e : UInt32
deriving DecidableEq

/-- The chaining value before the first block. -/
def State.start : State :=
  ⟨0x67452301, 0xEFCDAB89, 0x98BADCFE, 0x10325476, 0xC3D2E1F0⟩

/-- Rotates a word to the left. -/
def rotl (x : UInt32) (n : UInt32) : UInt32 := (x <<< n) ||| (x >>> (32 - n))

/-- The message with its padding: a one bit, zeros, and its length in bits. -/
def padded (bs : Bytes) : Bytes :=
  let zeros := (119 - bs.length % 64) % 64
  let bits := bs.length * 8
  bs ++ (0x80 : UInt8) :: List.replicate zeros 0 ++
    (List.range 8).map fun i => UInt8.ofNat (bits >>> (8 * (7 - i)) % 256)

/-- The big-endian words of a byte string. -/
def wordsOf : Bytes → List UInt32
  | a :: b :: c :: d :: rest =>
      (a.toUInt32 <<< 24 ||| b.toUInt32 <<< 16 ||| c.toUInt32 <<< 8 ||| d.toUInt32) ::
        wordsOf rest
  | _ => []

/-- The bytes of a word, highest first. -/
def bytesOf (w : UInt32) : Bytes :=
  [(w >>> 24).toUInt8, (w >>> 16).toUInt8, (w >>> 8).toUInt8, w.toUInt8]

/-- The next `n` words of a message schedule whose last sixteen words are
`window`, earliest first. -/
def expand : Nat → List UInt32 → List UInt32
  | 0, _ => []
  | n + 1, window =>
      let w (i : Nat) := window.getD i 0
      let next := rotl (w 13 ^^^ w 8 ^^^ w 2 ^^^ w 0) 1
      next :: expand n (window.drop 1 ++ [next])

/-- The eighty words of a block's message schedule. -/
def schedule (block : List UInt32) : List UInt32 := block ++ expand 64 block

/-- The mixing function and the constant of a round. -/
def mixing (round : Nat) (b c d : UInt32) : UInt32 × UInt32 :=
  if round < 20 then ((b &&& c) ||| (~~~b &&& d), 0x5A827999)
  else if round < 40 then (b ^^^ c ^^^ d, 0x6ED9EBA1)
  else if round < 60 then ((b &&& c) ||| (b &&& d) ||| (c &&& d), 0x8F1BBCDC)
  else (b ^^^ c ^^^ d, 0xCA62C1D6)

/-- One round. -/
def round (s : State) (i : Nat) (w : UInt32) : State :=
  let (f, k) := mixing i s.b s.c s.d
  ⟨rotl s.a 5 + f + s.e + k + w, s.a, rotl s.b 30, s.c, s.d⟩

/-- The rounds of a schedule, from round `i` on. -/
def rounds (s : State) (i : Nat) : List UInt32 → State
  | [] => s
  | w :: ws => rounds (round s i w) (i + 1) ws

/-- Mixes one block in. -/
def mix (s : State) (block : List UInt32) : State :=
  let t := rounds s 0 (schedule block)
  ⟨s.a + t.a, s.b + t.b, s.c + t.c, s.d + t.d, s.e + t.e⟩

/-- Mixes in `n` blocks of sixteen words. -/
def mixAll : Nat → State → List UInt32 → State
  | 0, s, _ => s
  | n + 1, s, ws => mixAll n (mix s (ws.take 16)) (ws.drop 16)

/-- The digest of a byte string: twenty bytes. -/
def digest (bs : Bytes) : Bytes :=
  let ws := wordsOf (padded bs)
  let s := mixAll (ws.length / 16) .start ws
  [s.a, s.b, s.c, s.d, s.e].flatMap bytesOf

end Sha1

end WebServer
