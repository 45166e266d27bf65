import WebServer.Bytes

/-!
# WebServer.Link.Sink

The side of a connection that the server writes to. A write may take fewer bytes than
it is given, and then the rest is written again. A sink may take no more than a number
of bytes: then it breaks, or it stalls and takes the rest only after for ever.
-/

namespace WebServer

/-- What a client takes, and what it has taken. -/
structure Sink where
  /-- The most bytes that the next writes take, one after the other. -/
  grants : List Nat := []
  /-- The most bytes that any other write takes. -/
  cap : Option Nat := none
  /-- After so many bytes the sink is broken. -/
  limit : Option Nat := none
  /-- Whether a broken sink takes nothing, instead of reporting an error. -/
  silent : Bool := false
  /-- After so many bytes writes wait for ever. -/
  stall : Option Nat := none
  /-- The bytes taken, in writes, latest first. -/
  taken : List Bytes := []
  /-- The number of bytes taken. -/
  count : Nat := 0
  /-- Whether the server has closed its side. -/
  shut : Bool := false
deriving DecidableEq, Inhabited

namespace Sink

/-- Everything the sink took. -/
def output (s : Sink) : Bytes := s.taken.reverse.flatten

/-! ## One write -/

/-- What one write comes to. -/
inductive Offer where
  | took (n : Nat)
  /-- The sink reported an error. -/
  | broken
  /-- The write waits. -/
  | stalled
deriving DecidableEq

/-- How many of `n` bytes the next write takes, bounds apart. -/
def granted (s : Sink) (n : Nat) : Nat :=
  match s.grants.head?.or s.cap with
  | some g => min n g
  | none => n

/-- The bytes that are left before a bound. -/
def room (s : Sink) (bound : Option Nat) (n : Nat) : Nat :=
  match bound with
  | some b => min n (b - s.count)
  | none => n

/-- What one write of `n` bytes comes to. -/
def offer (s : Sink) (n : Nat) : Offer :=
  let open? := s.room s.limit n
  let flow := s.room s.stall n
  if s.granted n = 0 then .took 0
  else if open? = 0 then if s.silent then .took 0 else .broken
  else if flow = 0 then .stalled
  else .took (min (s.granted n) (min open? flow))

/-- Takes the bytes of one write. -/
def take (s : Sink) (bs : Bytes) : Sink :=
  { s with
    grants := s.grants.tail
    taken := bs :: s.taken
    count := s.count + bs.length }

/-! ## All writes -/

/-- What writing comes to. -/
inductive Result where
  | done
  /-- The sink reported an error. -/
  | broken
  /-- The sink took nothing. -/
  | refused
  /-- The write waits. -/
  | stalled
deriving DecidableEq

/-- Writes bytes, in as many writes as it takes. -/
def write (s : Sink) (bs : Bytes) : Result × Sink :=
  if bs = [] then (.done, s)
  else
    match s.offer bs.length with
    | .took 0 => (.refused, s.take [])
    | .took (n + 1) => write (s.take (bs.take (n + 1))) (bs.drop (n + 1))
    | .broken => (.broken, s)
    | .stalled => (.stalled, s)
termination_by bs.length
decreasing_by
  have := List.length_pos_iff.2 ‹bs ≠ []›
  rw [List.length_drop]
  omega

/-- Writes byte strings until one fails. -/
def writeAll (s : Sink) : List Bytes → Result × Sink
  | [] => (.done, s)
  | bs :: rest =>
      match s.write bs with
      | (.done, s) => writeAll s rest
      | (r, s) => (r, s)

/-- Closes the server's side. -/
def shutdown (s : Sink) : Sink := { s with shut := true }

end Sink

end WebServer
