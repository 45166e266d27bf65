import WebServer.Yaml.Layout

/-!
# WebServer.Yaml.Node

The tree that tokens spell: scalars, sequences, mappings, and aliases of
anchored nodes. A text holds at most one document.
-/

namespace WebServer

namespace Yaml

/-- A node. A scalar without a tag has the empty one. -/
inductive Node where
  | scalar (style : Style) (tag text : List Char)
  | sequence (items : List Node)
  | mapping (entries : List (Node × Node))
  /-- The node whose anchor took a slot last. -/
  | alias (slot : Nat)
deriving Inhabited

/-- The node that stands for nothing. -/
def Node.empty : Node := .scalar .plain [] []

/-- A document being read. -/
structure Reading where
  tokens : List Token
  /-- What the handles of tags stand for. -/
  handles : List (List Char × List Char) := []
  /-- The slots of the anchors' names. -/
  slots : List (List Char × Nat) := []
  /-- For each slot the numbers of the nodes that took it, the last one first. -/
  owners : List (Nat × Nat) := []
  /-- The number of anchored nodes begun. -/
  begun : Nat := 0
  /-- The anchored nodes that are complete, by number. -/
  anchored : List (Nat × Node) := []

namespace Reading

/-- A step of reading; it fails on a token that may not stand there. -/
abbrev Step := StateT Reading Option

/-- The next token. -/
def peek : Step Token := do return (← get).tokens.headD .finish

/-- Goes past the next token. -/
def skip : Step Unit := modify fun r => { r with tokens := r.tokens.drop 1 }

/-- Goes past the next token if it is `t`; tells whether it was. -/
def accept (t : Token) : Step Bool := do
  if (← peek) = t then
    skip
    return true
  else return false

/-- Goes past the next token, which must be `t`. -/
def expect (t : Token) : Step Unit := do
  unless ← accept t do failure

/-! ## Anchors, aliases and tags -/

/-- The slot of an anchor's name: a new anchor takes the number of names known
before it. -/
def slot? (r : Reading) (name : List Char) : Option Nat := r.slots.lookup name

/-- Begins an anchored node; answers its number. -/
def beginAnchored (name : List Char) : Step Nat := modifyGet fun r =>
  let slot := r.slots.length
  let others := r.slots.filter (·.1 ≠ name)
  (r.begun, { r with
    slots := (name, slot) :: others
    owners := (slot, r.begun) :: r.owners
    begun := r.begun + 1 })

/-- Completes an anchored node. -/
def complete (number : Nat) (node : Node) : Step Unit :=
  modify fun r => { r with anchored := (number, node) :: r.anchored }

/-- The handles that need no directive. -/
def standardHandles : List (List Char × List Char) :=
  [("!".toList, "!".toList), ("!!".toList, "tag:yaml.org,2002:".toList)]

/-- What a tag stands for. -/
def resolveTag (handle suffix : List Char) : Step (List Char) := do
  if handle.isEmpty then return suffix
  match ((← get).handles ++ standardHandles).lookup handle with
  | some text => return text ++ suffix
  | none => failure

/-- Reads an anchor, if one comes. -/
def anchor? : Step (Option (List Char)) := do
  match ← peek with
  | .anchor name =>
      skip
      return some name
  | _ => return none

/-- Reads a tag, if one comes. -/
def tag? : Step (Option (List Char)) := do
  match ← peek with
  | .tag handle suffix =>
      skip
      return some (← resolveTag handle suffix)
  | _ => return none

/-- Reads an anchor and a tag, in either order. -/
def properties : Step (Option (List Char) × Option (List Char)) := do
  match ← anchor? with
  | some name => return (some name, ← tag?)
  | none =>
      let tag ← tag?
      return (← if tag.isSome then anchor? else pure none, tag)

/-! ## Nodes -/

/-- Whether the token comes after an item of a block that stands for nothing. -/
def endsBlockItem : Token → Bool
  | .key | .value | .blockEnd => true
  | _ => false

/-- The places of nodes. -/
inductive Site where
  /-- Between brackets. -/
  | flow
  /-- Where lines and indentation count. -/
  | block
  /-- The same, where the dashes of a sequence need no indentation. -/
  | hanging
deriving DecidableEq

mutual

/-- Reads a node. -/
def node (site : Site) : Nat → Step Node
  | 0 => failure
  | fuel + 1 => do
      match ← peek with
      | .alias name =>
          skip
          match (← get).slot? name with
          | some slot => return .alias slot
          | none => failure
      | _ =>
          let (name, tag) ← properties
          match name with
          | none => content site tag tag.isSome fuel
          | some name =>
              let number ← beginAnchored name
              let n ← content site tag true fuel
              complete number n
              return n

/-- Reads what comes after the properties of a node; with properties it may be
missing. -/
def content (site : Site) (tag : Option (List Char)) (optional : Bool) : Nat → Step Node
  | 0 => failure
  | fuel + 1 => do
      match ← peek, site with
      | .entry, .hanging => return .sequence (← hangingItems fuel)
      | .scalar style text, _ =>
          skip
          return .scalar style (tag.getD []) text
      | .flowSequence, _ =>
          skip
          return .sequence (← flowItems true fuel)
      | .flowMapping, _ =>
          skip
          return .mapping (← flowEntries true fuel)
      | .blockSequence, .block | .blockSequence, .hanging =>
          skip
          return .sequence (← blockItems fuel)
      | .blockMapping, .block | .blockMapping, .hanging =>
          skip
          return .mapping (← blockEntries fuel)
      | _, _ => if optional then return .scalar .plain (tag.getD []) [] else failure

/-- Reads a node unless a token comes that ends it; then it stands for nothing. -/
def nodeUnless (ends : Token → Bool) (site : Site) : Nat → Step Node
  | 0 => failure
  | fuel + 1 => do if ends (← peek) then return .empty else node site fuel

/-- Reads the items of a block sequence. -/
def blockItems : Nat → Step (List Node)
  | 0 => failure
  | fuel + 1 => do
      if ← accept .entry then
        let item ← nodeUnless (fun t => t = .entry || t = .blockEnd) .block fuel
        return item :: (← blockItems fuel)
      else
        expect .blockEnd
        return []

/-- Reads the items of a sequence that stands at the indentation of its key. -/
def hangingItems : Nat → Step (List Node)
  | 0 => failure
  | fuel + 1 => do
      if ← accept .entry then
        let item ← nodeUnless (fun t => t = .entry || endsBlockItem t) .block fuel
        return item :: (← hangingItems fuel)
      else return []

/-- Reads the entries of a block mapping. -/
def blockEntries : Nat → Step (List (Node × Node))
  | 0 => failure
  | fuel + 1 => do
      if ← accept .key then
        let k ← nodeUnless endsBlockItem .hanging fuel
        let v ← if ← accept .value then nodeUnless endsBlockItem .hanging fuel else pure .empty
        return (k, v) :: (← blockEntries fuel)
      else
        expect .blockEnd
        return []

/-- Reads the value of an entry between brackets, if a colon comes. -/
def flowValue (close : Token) : Nat → Step Node
  | 0 => failure
  | fuel + 1 => do
      if ← accept .value then nodeUnless (fun t => t = .comma || t = close) .flow fuel
      else return .empty

/-- Reads a mapping of one entry inside a sequence between brackets. Where the key
stands for nothing, the token after the question mark counts for it. -/
def flowPair : Nat → Step Node
  | 0 => failure
  | fuel + 1 => do
      let t ← peek
      let k ← if t = .value || t = .comma || t = .flowSequenceEnd then
          skip
          pure .empty
        else node .flow fuel
      return .mapping [(k, ← flowValue .flowSequenceEnd fuel)]

/-- Reads the items of a sequence between brackets. -/
def flowItems (first : Bool) : Nat → Step (List Node)
  | 0 => failure
  | fuel + 1 => do
      if ← accept .flowSequenceEnd then return []
      unless first do expect .comma
      if ← accept .key then
        let item ← flowPair fuel
        return item :: (← flowItems false fuel)
      else if ← accept .flowSequenceEnd then return []
      else
        let item ← node .flow fuel
        return item :: (← flowItems false fuel)

/-- Reads the entries of a mapping between brackets. -/
def flowEntries (first : Bool) : Nat → Step (List (Node × Node))
  | 0 => failure
  | fuel + 1 => do
      if ← accept .flowMappingEnd then return []
      unless first do expect .comma
      if ← accept .key then
        let k ← nodeUnless (fun t => t = .value || t = .comma || t = .flowMappingEnd) .flow fuel
        let v ← flowValue .flowMappingEnd fuel
        return (k, v) :: (← flowEntries false fuel)
      else if ← accept .flowMappingEnd then return []
      else
        let k ← node .flow fuel
        return (k, .empty) :: (← flowEntries false fuel)

end

/-! ## Documents -/

/-- Reads the directives of a document. The version may be given once and each
handle once. -/
def directives (versioned : Bool) : Nat → Step Unit
  | 0 => failure
  | fuel + 1 => do
      match ← peek with
      | .version major minor =>
          if versioned || major ≠ 1 || (minor ≠ 1 && minor ≠ 2) then failure
          skip
          directives true fuel
      | .handle name text =>
          if ((← get).handles.lookup name).isSome then failure
          skip
          modify fun r => { r with handles := r.handles ++ [(name, text)] }
          directives versioned fuel
      | _ => return ()

/-- Whether the token begins or ends a document. -/
def isDocumentMark : Token → Bool
  | .version _ _ | .handle _ _ | .documentStart | .documentEnd | .finish => true
  | _ => false

/-- Whether the token begins a document that is announced. -/
def isAnnounced : Token → Bool
  | .version _ _ | .handle _ _ | .documentStart => true
  | _ => false

/-- Reads the only document of a text; `none` if there is none. Each token takes
at most four steps. -/
def document : Step (Option Node) := do
  let fuel := 4 * (← get).tokens.length + 4
  let first ← peek
  if first = .finish then return none
  let root ←
    if isAnnounced first then do
      directives false fuel
      expect .documentStart
      nodeUnless isDocumentMark .block fuel
    else node .block fuel
  modify fun r => { r with tokens := r.tokens.dropWhile (· = .documentEnd) }
  expect .finish
  return some root

end Reading

/-- A document: its root, and the nodes that its aliases stand for. -/
structure Document where
  root : Option Node
  aliased : List (Nat × Node)

namespace Document

/-- Reads a text. -/
def parse (text : String) : Option Document := do
  let (root, r) ← Reading.document.run { tokens := ← Token.scan text.toList }
  let last := r.owners.filterMap fun (slot, number) =>
    (r.anchored.lookup number).map fun n => (slot, n)
  return { root, aliased := last }

/-- The node that a node stands for. -/
def follow (d : Document) : Node → Node
  | .alias slot => (d.aliased.lookup slot).getD .empty
  | n => n

/-! ## Values -/

/-- The text of a scalar of any kind. -/
def text? (d : Document) (n : Node) : Option String :=
  match d.follow n with
  | .scalar _ _ text => some (String.ofList text)
  | _ => none

/-- The text of a scalar that may be a value of the standard type `type`: a plain
one, or a literal with the tag of the type. -/
def typedText? (d : Document) (type : String) (n : Node) : Option (List Char) :=
  match d.follow n with
  | .scalar .plain _ text => some text
  | .scalar .literal tag text =>
      if tag = "tag:yaml.org,2002:".toList ++ type.toList then some text else none
  | _ => none

/-- Reads a truth value. -/
def bool? (d : Document) (n : Node) : Option Bool := do
  let text := String.ofList (← d.typedText? "bool" n)
  if text = "true" || text = "True" || text = "TRUE" then return true
  else if text = "false" || text = "False" || text = "FALSE" then return false
  else none

/-- Reads an unsigned numeral: hexadecimal, octal or binary with its mark in
front, or else decimal without needless zeros. -/
def natural? (cs : List Char) : Option Nat :=
  let body := if cs.head? == some '+' then cs.drop 1 else cs
  let digits (base : Nat) (ds : List Char) : Option Nat :=
    (digits? base ds).filter (· < wordLimit)
  match body with
  | '0' :: 'x' :: ds => digits 16 ds
  | '0' :: 'o' :: ds => digits 8 ds
  | '0' :: 'b' :: ds => digits 2 ds
  | '0' :: _ :: _ => none
  | _ => digits 10 body

/-- Reads an unsigned 64-bit number. -/
def nat? (d : Document) (n : Node) : Option Nat := (d.typedText? "int" n).bind natural?

/-- The fields of a record, those with one of the given names. Nothing stands for
a record without fields; a name may come once. -/
def fields? (d : Document) (names : List String) (n : Node) : Option (List (String × Node)) :=
  match d.follow n with
  | .scalar .plain _ [] => some []
  | .mapping entries => do
      let all ← entries.mapM fun (k, v) => (d.text? k).map fun k => (k, v)
      let known := all.filter fun f => names.contains f.1
      if (known.map (·.1)).Nodup then return known else none
  | _ => none

end Document

end Yaml

end WebServer
