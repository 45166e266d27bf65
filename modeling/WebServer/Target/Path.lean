import WebServer.Text.Lossy

/-!
# WebServer.Target.Path

The path of an absolute request target, brought into normal form: characters
outside the path alphabet are percent coded, `.` and `..` segments (also percent
coded) are resolved, and in `file` targets a drive letter is kept apart.

The path under construction is kept as two reversed texts, `done` for the
finished segments and `seg` for the one being read.
-/

namespace WebServer

/-- How a scheme's targets are read. -/
inductive SchemeKind where
  /-- `file`: a host is optional, and drive letters are known. -/
  | file
  /-- A scheme of the web, such as `http`: a host is required. -/
  | web
  /-- Any other scheme. -/
  | other
deriving DecidableEq, Inhabited

namespace SchemeKind

/-- Schemes in which a backslash is a slash. -/
def isSpecial : SchemeKind → Bool
  | .other => false
  | _ => true

/-- The kind of a scheme in lower case. -/
def ofName (scheme : String) : SchemeKind :=
  if scheme == "file" then .file
  else if ["http", "https", "ws", "wss", "ftp"].contains scheme then .web
  else .other

end SchemeKind

namespace Path

/-- The visible ASCII characters that a path shows in percent coding. -/
def coded : List Char := [' ', '"', '<', '>', '`', '#', '?', '\x7b', '\x7d']

/-- Whether a text is a letter and a colon, or a letter and a bar. -/
def isDrive : List Char → Bool
  | [c, d] => c.isAlpha && (d = ':' || d = '|')
  | _ => false

/-- Whether a text is a letter and a colon. -/
def isPlainDrive : List Char → Bool
  | [c, ':'] => c.isAlpha
  | _ => false

/-- Whether a segment, with the text behind it, opens with a drive letter. -/
def opensDrive : List Char → Bool
  | [c, d] => c.isAlpha && (d = ':' || d = '|')
  | c :: d :: e :: _ => c.isAlpha && (d = ':' || d = '|') && ['/', '\\', '?', '#'].contains e
  | _ => false

/-- Segments that stand for the directory itself. -/
def isDot (seg : String) : Bool := [".", "%2e", "%2E"].contains seg

/-- Segments that stand for the directory above. -/
def isDotDot (seg : String) : Bool :=
  ["..", "%2e%2e", "%2e%2E", "%2E%2e", "%2E%2E", "%2e.", "%2E.", ".%2e", ".%2E"].contains seg

/-- Whether a path is a single character. -/
def isRoot : List Char → Bool
  | [_] => true
  | _ => false

/-- Whether the slash that ends `done` may go when the segment before it does:
it must not be the root slash, nor follow a drive letter. -/
def slashMayGo (more : List Char) : Bool :=
  more.contains '/' && !opensDrive ('/' :: more.takeWhile (· ≠ '/')).reverse

/-- Drops the last segment of a path. -/
def pop (kind : SchemeKind) (path : List Char) : List Char :=
  let last := path.takeWhile (· ≠ '/')
  if kind = .file && isPlainDrive last.reverse then path else path.dropWhile (· ≠ '/')

/-- Ends a path with a slash, unless it has one there. -/
def withSlash (path : List Char) : List Char :=
  if path.head? = some '/' then path else '/' :: path

/-- The path after the segment being read has ended, with `slash` if a slash
ended it. -/
def close (kind : SchemeKind) (done seg : List Char) (slash : Bool) : List Char :=
  let text := String.ofList seg.reverse
  if isDotDot text then
    let shorter := match done with
      | '/' :: more => if slashMayGo more then more else done
      | _ => done
    let popped := pop kind shorter
    if slash then withSlash popped else popped
  else if isDot text then withSlash done
  else
    let seg :=
      if kind = .file && isRoot done && isDrive seg.reverse then ':' :: seg.drop 1 else seg
    if slash then '/' :: (seg ++ done) else seg ++ done

/-- Reads a path up to a question mark or number sign, which stays in front of
the rest. -/
def readFrom (kind : SchemeKind) : List Char → List Char → List Char → List Char × List Char
  | done, seg, [] => (close kind done seg false, [])
  | done, seg, c :: cs =>
      if c = '/' ∨ (c = '\\' ∧ kind.isSpecial) then readFrom kind (close kind done seg true) [] cs
      else if c = '?' ∨ c = '#' then (close kind done seg false, c :: cs)
      else
        readFrom kind done ((percentChar coded c).reverse ++ seg) cs

/-- Reads a path behind the text `start`; the path of a `file` target begins
with one slash. -/
def read (kind : SchemeKind) (start cs : List Char) : List Char × List Char :=
  let (path, rest) := readFrom kind start.reverse [] cs
  let path := path.reverse
  (if kind = .file then '/' :: path.dropWhile (· = '/') else path, rest)

end Path

end WebServer
