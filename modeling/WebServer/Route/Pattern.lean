import WebServer.Text.Blank
import WebServer.Text.Quoted
import WebServer.Text.Split

/-!
# WebServer.Route.Pattern

Patterns for request paths.

| pattern   | kind       | matches                                      |
|-----------|------------|----------------------------------------------|
| `/json`   | `exact`    | `/json` only                                 |
| `/json/*` | `under`    | `/json`, `/json/a`, `/json/a/b`; not `/jsonx` |
| `/*`      | `under`    | everything                                   |
| `*.json`  | `ext`      | paths whose last segment ends in `.json`     |
| `/`       | `fallback` | everything, when nothing else does           |
-/

namespace WebServer

namespace Route

/-- A pattern for request paths. -/
inductive Pattern where
  | exact (path : String)
  /-- The directory without the final slash and asterisk; empty for `/*`. -/
  | under (directory : String)
  /-- The extension without asterisk and dot. -/
  | ext (extension : String)
  | fallback
deriving DecidableEq, Inhabited, Repr

/-- Why a text is no pattern. -/
inductive PatternError where
  | empty
  | invalid (text : String)
deriving DecidableEq, Repr

/-- The wording of an error. -/
def PatternError.message : PatternError → String
  | .empty => "empty URL pattern"
  | .invalid text => "invalid URL pattern " ++ quoted text ++ ": must start with '/' or '*.'"

namespace Pattern

/-- The text in front of a final slash and asterisk. -/
def directory? (cs : List Char) : Option (List Char) :=
  match cs.reverse with
  | '*' :: '/' :: rest => some rest.reverse
  | _ => none

/-- Reads a pattern, white space around it aside. -/
def parse (text : String) : Except PatternError Pattern :=
  let cs := trim text.toList
  let invalid : Except PatternError Pattern := .error (.invalid (String.ofList cs))
  match cs with
  | [] => .error .empty
  | '*' :: '.' :: e =>
      if e.isEmpty || e.contains '/' then invalid else .ok (.ext (String.ofList e))
  | ['/'] => .ok .fallback
  | '/' :: _ =>
      match directory? cs with
      | some d => if d.contains '*' then invalid else .ok (.under (String.ofList d))
      | none => if cs.contains '*' then invalid else .ok (.exact (String.ofList cs))
  | _ => invalid

/-- The text of a pattern. -/
def text : Pattern → String
  | .exact p => p
  | .under d => d ++ "/*"
  | .ext e => "*." ++ e
  | .fallback => "/"

/-- What remains of a path behind a beginning. -/
def after? : List Char → List Char → Option (List Char)
  | [], cs => some cs
  | _ :: _, [] => none
  | p :: ps, c :: cs => if p = c then after? ps cs else none

/-- Whether a path lies in a directory, or is the directory: whole segments must
agree. -/
def isUnder (directory path : String) : Bool :=
  match after? directory.toList path.toList with
  | some rest => rest.isEmpty || rest.head? = some '/'
  | none => false

/-- The last segment of a path. -/
def lastSegment (cs : List Char) : List Char := (cs.reverse.takeWhile (· ≠ '/')).reverse

/-- The extension of a path's last segment. A lone dot has none. -/
def extension? (path : String) : Option String :=
  match splitOnceLast '.' (lastSegment path.toList) with
  | none => none
  | some ([], []) => none
  | some (_, e) => some (String.ofList e)

/-- Whether a path is matched. -/
def isMatch (p : Pattern) (path : String) : Bool :=
  match p with
  | .exact q => path == q
  | .under d => isUnder d path
  | .ext e => extension? path == some e
  | .fallback => true

end Pattern

end Route

end WebServer
