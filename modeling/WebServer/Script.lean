import WebServer.Link

/-!
# WebServer.Script

What a client does on a connection, step by step. One millisecond passes before
each step; after the last one the client leaves, unless it has said how its side
ends.
-/

namespace WebServer

/-- A step of a client. -/
inductive Step where
  /-- Something happens. -/
  | act (a : Act)
  /-- Sends bytes in pieces, one millisecond apart. -/
  | split (bs : Bytes) (piece : Nat)
  /-- Lets time pass. -/
  | wait (ms : Nat)
  /-- The client stays for ever. -/
  | hang
deriving DecidableEq

namespace Step

/-- Whether a step says how the client's side ends. -/
def endsClient : Step → Bool
  | .act .eof | .act .reset | .hang => true
  | _ => false

/-- Cuts bytes into pieces; a size of 0 is taken for 1. -/
def pieces (n : Nat) (bs : Bytes) : List Bytes :=
  match bs with
  | [] => []
  | b :: rest => (b :: rest.take (n - 1)) :: pieces n (rest.drop (n - 1))
termination_by bs.length
decreasing_by
  simp only [List.length_drop, List.length_cons]
  omega

/-- The pieces of a text of bytes, sent from `now` on one millisecond apart, and
the time after the last. -/
def sendPieces : Nat → List Bytes → List (Nat × Act) × Nat
  | now, [] => ([], now)
  | now, p :: ps =>
      let (rest, t) := sendPieces (now + 1) ps
      ((now, .bytes p) :: rest, t)

/-- What happens in a step that starts at `now`, and the time after it. -/
def happenings (now : Nat) : Step → List (Nat × Act) × Nat
  | .act a => ([(now, a)], now)
  | .split bs n => sendPieces now (pieces n bs)
  | .wait ms => ([], now + ms)
  | .hang => ([], now)

/-- What happens in steps that follow the instant `now`; `left` tells that the
client's side has ended. -/
def timelineFrom : Nat → Bool → List Step → List (Nat × Act)
  | now, left, [] => if left then [] else [(now + 1, .eof)]
  | now, left, s :: ss =>
      let (acts, t) := s.happenings (now + 1)
      acts ++ timelineFrom t (left || s.endsClient) ss

/-- What happens on a connection whose client follows the steps. -/
def timeline (steps : List Step) : List (Nat × Act) := timelineFrom 0 false steps

end Step

end WebServer
