/-!
# WebServer.Text.Blank

White space of texts: the characters with the Unicode property `White_Space`,
trimming, and splitting into words.
-/

namespace WebServer

/-- Characters with the Unicode property `White_Space`. -/
def isBlank (c : Char) : Bool :=
  let n := c.toNat
  (9 ≤ n && n ≤ 13) || n == 0x20 || n == 0x85 || n == 0xA0 || n == 0x1680 ||
    (0x2000 ≤ n && n ≤ 0x200A) || n == 0x2028 || n == 0x2029 || n == 0x202F ||
    n == 0x205F || n == 0x3000

/-- Removes the characters satisfying `p` from both ends. -/
def trimBy (p : Char → Bool) (cs : List Char) : List Char :=
  ((cs.dropWhile p).reverse.dropWhile p).reverse

/-- Removes white space from both ends. -/
def trim (cs : List Char) : List Char := trimBy isBlank cs

/-- The maximal runs of characters that are not white space. -/
def words (cs : List Char) : List (List Char) :=
  (cs.splitOnP isBlank).filter fun w => !w.isEmpty

/-- `trim` on strings. -/
def trimText (s : String) : String := String.ofList (trim s.toList)

end WebServer
