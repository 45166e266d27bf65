import WebServer.Target.Host
import WebServer.Target.Path
import WebServer.Text.Blank

/-!
# WebServer.Target.Url

Request targets in absolute form, `scheme://user@host:port/path?query`, as sent
to proxies. Only the path and the query are kept; the rest is checked. A target
is refused when it has no scheme, no acceptable host where one is required, a
port that is no 16-bit number, or a path that does not start with a slash.
-/

namespace WebServer

namespace Url

/-- The scheme in front of a target, in lower case, and what follows its colon. -/
def scheme? (cs : List Char) : Option (String × List Char) :=
  match cs with
  | c :: _ =>
      if c.isAlpha then
        match splitOnce ':' cs with
        | some (s, rest) =>
            if s.all fun c => c.isAlphanum || c = '+' || c = '-' || c = '.' then
              some (String.ofList (foldCase s), rest)
            else none
        | none => none
      else none
  | [] => none

/-- Whether a character ends the authority of a target. -/
def endsAuthority (kind : SchemeKind) (c : Char) : Bool :=
  c = '/' || c = '?' || c = '#' || (c = '\\' && kind.isSpecial)

/-- The authority and the text after it. -/
def authority (kind : SchemeKind) (cs : List Char) : List Char × List Char :=
  (cs.takeWhile fun c => !endsAuthority kind c, cs.dropWhile fun c => !endsAuthority kind c)

/-- Splits the user information off. The flag tells whether there is any; a lone
colon is none. -/
def userInfo (auth : List Char) : Bool × List Char :=
  match splitOnceLast '@' auth with
  | some (info, rest) => (!info.isEmpty && info != [':'], rest)
  | none => (false, auth)

/-- The host in front of an authority, up to a colon outside brackets. -/
def hostOf : Bool → List Char → List Char × List Char
  | _, [] => ([], [])
  | inside, c :: cs =>
      if c = ':' ∧ ¬inside then ([], c :: cs)
      else
        let (host, rest) := hostOf (if c = '[' then true else if c = ']' then false else inside) cs
        (c :: host, rest)

/-- Whether digits are a 16-bit number; there may be none. -/
def isPort (cs : List Char) : Bool :=
  cs.isEmpty ||
    (cs.all Char.isDigit && match digits? 10 cs with
      | some n => n < 0x10000
      | none => false)

/-- Cuts a port at a backslash, which ends it in every scheme. -/
def portOf (cs : List Char) : List Char × List Char :=
  (cs.takeWhile (· ≠ '\\'), cs.dropWhile (· ≠ '\\'))

/-- Checks the authority behind the two slashes and gives what follows it. -/
def afterAuthority? (kind : SchemeKind) (cs : List Char) : Option (List Char) :=
  let (auth, rest) := authority kind cs
  let (hasUser, hostPort) := userInfo auth
  let emptyAfterUser := match splitOnceLast '@' auth with
    | some ([], []) => !rest.isEmpty
    | _ => false
  let (host, port) := hostOf false hostPort
  let hostOk :=
    if host.isEmpty then kind = .other && !hasUser && port.isEmpty
    else if kind.isSpecial then Host.isSpecial host else Host.isOpaque host
  if emptyAfterUser || !hostOk then none
  else
    match port with
    | ':' :: digits =>
        let (digits, more) := portOf digits
        if isPort digits then some (more ++ rest) else none
    | _ => some rest

/-- The path behind an authority. -/
def pathAfter (kind : SchemeKind) (cs : List Char) : List Char × List Char :=
  if kind.isSpecial then
    match cs with
    | '/' :: rest | '\\' :: rest => Path.read kind ['/'] rest
    | _ => Path.read kind ['/'] cs
  else
    match cs with
    | '?' :: _ | '#' :: _ => ([], cs)
    | [] => Path.read kind [] []
    | '/' :: _ => Path.read kind [] cs
    | _ => Path.read kind ['/'] cs

/-- Whether a character is a slash of a well-known scheme. -/
def isSlash (c : Char) : Bool := c = '/' || c = '\\'

/-- The path of a `file` target. A drive letter in the place of the host belongs
to the path; with no host, or this machine as the host, the slash before the path
is read as a part of it. -/
def filePath? (cs : List Char) : Option (List Char × List Char) :=
  match cs with
  | a :: b :: rest =>
      if isSlash a && isSlash b then
        let stop (c : Char) : Bool := isSlash c || c = '?' || c = '#'
        let host := rest.takeWhile fun c => !stop c
        let after := rest.dropWhile fun c => !stop c
        if Path.isDrive host then some (Path.read .file ['/'] rest)
        else if host.isEmpty || Host.isLocalhost host then some (Path.read .file ['/'] after)
        else if !Host.isSpecial host then none
        else
          match after with
          | '/' :: more | '\\' :: more => some (Path.read .file ['/'] more)
          | _ => some (Path.read .file ['/'] after)
      else some (if isSlash a then Path.read .file [] cs else Path.read .file ['/'] cs)
  | [a] => some (if isSlash a then Path.read .file [] cs else Path.read .file ['/'] cs)
  | [] => some (Path.read .file ['/'] [])

/-- The path behind a scheme. -/
def path? (kind : SchemeKind) (cs : List Char) : Option (List Char × List Char) :=
  match kind with
  | .file => filePath? cs
  | .web => (afterAuthority? kind (cs.dropWhile isSlash)).map (pathAfter kind)
  | .other =>
      match cs with
      | '/' :: '/' :: rest => (afterAuthority? kind rest).map (pathAfter kind)
      | '/' :: rest => some (Path.read kind ['/'] rest)
      | _ => none

/-- The visible ASCII characters that a query shows in percent coding. -/
def codedInQuery (kind : SchemeKind) : List Char :=
  [' ', '"', '#', '<', '>'] ++ if kind.isSpecial then ['\''] else []

/-- The query in front of what follows a path, without its fragment. -/
def queryOf (kind : SchemeKind) (cs : List Char) : Option String :=
  match cs with
  | '?' :: rest =>
      some (String.ofList
        ((rest.takeWhile (· ≠ '#')).flatMap (percentChar (codedInQuery kind))))
  | _ => none

/-- The path and query of an absolute target. -/
def parse? (target : String) : Option (String × Option String) := do
  let (scheme, rest) ← scheme? (trimBy (fun c => c.toNat ≤ 0x20) target.toList)
  let kind := SchemeKind.ofName scheme
  let (path, rest) ← path? kind rest
  return (String.ofList path, queryOf kind rest)

end Url

end WebServer
