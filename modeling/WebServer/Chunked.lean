import WebServer.ParseError
import WebServer.Text.Number

/-!
# WebServer.Chunked

The chunked transfer coding:

```
body    =  chunk* "0" [";" extension] CRLF  trailer-line*  CRLF
chunk   =  size-in-hex [";" extension] CRLF  data  CRLF
```

`Decoder` takes a body that arrives in pieces. It is fed everything received so
far and goes on behind the last complete chunk, so each chunk is scanned once.
-/

namespace WebServer

namespace Chunked

/-! ## Encoding -/

/-- A number in lower-case hexadecimal. -/
def hexText (n : Nat) : Bytes := utf8 (String.ofList (Nat.toDigits 16 n))

/-- One chunk on the wire. -/
def encode (data : Bytes) : Bytes := hexText data.length ++ crlf ++ data ++ crlf

/-- The chunk of size zero and the empty trailer. -/
def lastChunk : Bytes := [48, 13, 10, 13, 10]

/-! ## Framing lines -/

/-- The most bytes a size line or a trailer line may have. -/
def maxLine : Nat := 1024

/-- The length of the line in front of `bs`; `none` until its line end is
there. -/
def lineLength? (bs : Bytes) : Except ParseError (Option Nat) :=
  match Bytes.indexOf? crlf (bs.take (maxLine + 2)) with
  | some n => .ok (some n)
  | none => if (bs.drop maxLine).isEmpty then .ok none else .error .invalidChunk

/-- A line and its line end lie in the bytes it was found in. -/
theorem lineLength?_add_two_le {bs : Bytes} {n : Nat} (h : lineLength? bs = .ok (some n)) :
    n + 2 ≤ bs.length := by
  unfold lineLength? at h
  split at h
  · next m hm =>
      obtain rfl : m = n := by simpa using h
      obtain ⟨h1, h2⟩ := Bytes.isPrefixOf_drop_of_indexOf? hm
      have hl := (List.isPrefixOf_iff_prefix.1 h2).length_le
      simp only [crlf, List.length_cons, List.length_nil, List.length_drop,
        List.length_take] at hl h1
      omega
  · split at h <;> simp at h

/-- The size on a size line. -/
def sizeOf? (line : Bytes) : Option Nat :=
  (text? line).bind fun s => unsigned? 16 (trim ((s.toList.splitOn ';').headD []))

/-! ## The resumable decoder -/

/-- How far a body has been decoded. -/
structure Decoder where
  /-- The most bytes the data may have. -/
  limit : Nat
  /-- Offset of the first byte not decoded. -/
  pos : Nat := 0
  /-- Bytes of data so far. -/
  total : Nat := 0
  /-- Whether the chunk of size zero has been seen. -/
  inTrailers : Bool := false
  /-- The chunks not taken away yet, latest first. -/
  latest : List Bytes := []
deriving DecidableEq, Inhabited

namespace Decoder

/-- The chunks not taken away yet. -/
def chunks (d : Decoder) : List Bytes := d.latest.reverse

/-- Takes the decoded chunks away. -/
def takeChunks (d : Decoder) : List Bytes × Decoder := (d.chunks, { d with latest := [] })

/-- What one framing line leads to. -/
inductive Step where
  /-- More bytes are needed. -/
  | starved
  | failed (e : ParseError)
  /-- The trailer is over. -/
  | finished (d : Decoder)
  /-- That many bytes are decoded. -/
  | moved (d : Decoder) (used : Nat)

/-- Decodes a chunk of `size` bytes behind a size line of `n` bytes, where `data`
is what follows that line. -/
def chunkStep (d : Decoder) (n size : Nat) (data : Bytes) : Step :=
  let start := d.pos + n + 2
  if d.total + size ≥ wordLimit then .failed .invalidChunk
  else if d.total + size > d.limit then .failed (.bodyTooLarge d.limit)
  else if start + size ≥ wordLimit then .failed .invalidChunk
  else if start + size + 2 ≥ wordLimit then .failed .outOfRange
  else
    match data.drop size with
    | 13 :: 10 :: _ =>
        .moved { d with
          pos := start + size + 2
          total := d.total + size
          latest := data.take size :: d.latest } (n + 2 + size + 2)
    | _ :: _ :: _ => .failed .invalidChunk
    | _ => .starved

/-- Decodes one chunk, or one line of the trailer, from the front of `rest`, the
bytes from `pos` on. -/
def step (d : Decoder) (rest : Bytes) : Step :=
  match lineLength? rest with
  | .error e => .failed e
  | .ok none => .starved
  | .ok (some n) =>
      if d.inTrailers then
        let d' := { d with pos := d.pos + n + 2 }
        if n = 0 then .finished d' else .moved d' (n + 2)
      else
        match sizeOf? (rest.take n) with
        | none => .failed .invalidChunk
        | some 0 => .moved { d with pos := d.pos + n + 2, inTrailers := true } (n + 2)
        | some size => d.chunkStep n size (rest.drop (n + 2))

theorem used_of_chunkStep {d d' : Decoder} {n size used : Nat} {data : Bytes}
    (h : d.chunkStep n size data = .moved d' used) :
    used = n + 2 + size + 2 ∧ size + 2 ≤ data.length := by
  simp only [chunkStep] at h
  split at h
  · contradiction
  split at h
  · contradiction
  split at h
  · contradiction
  split at h
  · contradiction
  split at h
  · next heq =>
      have hl := congrArg List.length heq
      simp only [List.length_drop, List.length_cons] at hl
      injection h with _ hu
      exact ⟨hu.symm, by omega⟩
  · contradiction
  · contradiction

/-- A step that goes on has used some of the bytes. -/
theorem used_of_step {d d' : Decoder} {rest : Bytes} {n : Nat}
    (h : d.step rest = .moved d' n) : 0 < n ∧ n ≤ rest.length := by
  unfold step at h
  split at h
  · contradiction
  · contradiction
  · next k hk =>
      have hle := lineLength?_add_two_le hk
      split at h
      · dsimp only at h
        split at h
        · contradiction
        · injection h with _ hu
          omega
      · split at h
        · contradiction
        · injection h with _ hu
          omega
        · obtain ⟨rfl, hd⟩ := used_of_chunkStep h
          rw [List.length_drop] at hd
          omega

/-- Decodes the bytes from `pos` on. -/
def run (d : Decoder) (rest : Bytes) : Except ParseError (Option Nat) × Decoder :=
  match _h : d.step rest with
  | .starved => (.ok none, d)
  | .failed e => (.error e, d)
  | .finished d' => (.ok (some d'.pos), d')
  | .moved d' n => run d' (rest.drop n)
termination_by rest.length
decreasing_by
  have := used_of_step ‹d.step rest = .moved _ _›
  rw [List.length_drop]
  omega

/-- Decodes what a body holds so far. Answers the bytes the whole body took, once
it is complete. The body may only grow from call to call. -/
def decode (d : Decoder) (body : Bytes) : Except ParseError (Option Nat) × Decoder :=
  if body.length < d.pos then (.error .outOfRange, d) else d.run (body.drop d.pos)

end Decoder

/-! ## Whole bodies -/

/-- Decodes the body in front of `bs`: its chunks, and the bytes it took. -/
def decode (bs : Bytes) (limit : Nat) : Except ParseError (List Bytes × Nat) :=
  match ({ limit } : Decoder).decode bs with
  | (.error e, _) => .error e
  | (.ok none, _) => .error .incomplete
  | (.ok (some n), d) => .ok (d.chunks, n)

end Chunked

end WebServer
