import WebServer.Unicode.Combining
import WebServer.Unicode.Direction
import WebServer.Unicode.Joining
import WebServer.Unicode.Mark

/-!
# WebServer.Domain.Label

Which labels a domain name may have. A label does not begin with a mark, holds an
invisible joiner only where its script needs one, and is not too long. When any
label of a name runs to the left, all of them must run one way from end to end,
so that no label looks like a part of its neighbour.
-/

namespace WebServer

namespace Domain

open Unicode

/-! ## Joiners -/

/-- Keeps apart the letters around it. -/
def nonJoiner : Char := '\u200C'

/-- Joins the letters around it. -/
def joiner : Char := '\u200D'

/-- Whether the first character that is not passed over joins as one of `kinds`. -/
def joinsAs (kinds : List Joining) (cs : List Char) : Bool :=
  match cs.dropWhile (joining · = .transparent) with
  | c :: _ => kinds.contains (joining c)
  | [] => false

/-- Whether joiners stand only behind a mark that takes the vowel away, and
non-joiners there or between letters that would be joined. The text before `cs`
is in `before`, latest first. -/
def joinersFit (before : List Char) : List Char → Bool
  | [] => true
  | c :: cs =>
      let fits :=
        if c = nonJoiner ∨ c = joiner then
          match before with
          | [] => false
          | b :: _ =>
              combiningClass b = viramaClass ||
                (c = nonJoiner && joinsAs [.left, .dual] before && joinsAs [.right, .dual] cs)
        else true
      fits && joinersFit (c :: before) cs

/-! ## Directions -/

/-- Directions of characters that make a name one of mixed directions. -/
def leftward : List Direction := [.rightToLeft, .arabicLetter, .arabicNumber]

/-- Directions of signs that may stand inside any label. -/
def neutral : List Direction :=
  [.europeanNumber, .europeanSeparator, .commonSeparator, .europeanTerminator, .otherNeutral,
    .boundaryNeutral, .nonspacing]

/-- Whether a label that begins with a letter runs one way. -/
def runsOneWay (ds : List Direction) : Bool :=
  let last := (ds.reverse.dropWhile (· = .nonspacing)).head?
  match ds with
  | [] => true
  | .leftToRight :: _ =>
      last.any [.leftToRight, .europeanNumber].contains &&
        ds.all (.leftToRight :: neutral).contains
  | .rightToLeft :: _ | .arabicLetter :: _ =>
      last.any (.europeanNumber :: leftward).contains &&
        ds.all (leftward ++ neutral).contains &&
        !(ds.contains .europeanNumber && ds.contains .arabicNumber)
  | _ => false

/-- Whether the labels of a name run one way each, if any has characters that run
to the left. -/
def directionsFit (labels : List (List Char)) : Bool :=
  let directions := labels.map (·.map direction)
  !directions.any (·.any leftward.contains) || directions.all runsOneWay

/-! ## Labels -/

/-- Whether a character is beyond ASCII. -/
def isWide (c : Char) : Bool := 0x80 ≤ c.toNat

/-- The most characters of a label that is not in ASCII. -/
def longestWideLabel : Nat := 1000

/-- Whether a label in its readable form may stand in a name. -/
def isLabel (cs : List Char) : Bool :=
  !cs.any isWide ||
    (!cs.head?.any isMark && joinersFit [] cs && cs.length ≤ longestWideLabel)

end Domain

end WebServer
