import FlowWarden.Document.Yaml.Tag
import FlowWarden.Document.Yaml.Token.Lexer
/-!
# Nodes

The tree that a text writes, each node with its kind. An alias is read as the node under its
anchor, which must be complete by then: a node that holds itself is no tree, and a text with one is
refused as a whole. `Node.ofTokens?` reads exactly one document.
-/

namespace FlowWarden.Document.Yaml

inductive Node
  | scalar (tag : Tag) (content : String)
  | sequence (tag : Tag) (items : List Node)
  | mapping (tag : Tag) (entries : List (Node × Node))

instance : Inhabited Node :=
  ⟨.scalar .null ""⟩

/-- What is left to read, and what names stand for. -/
structure Reading where
  tokens : List Token
  /-- The node under each anchor, once it is complete. -/
  anchors : List (String × Option Node) := []
  /-- What the handles of tags stand for. -/
  handles : List (String × String) := []

/-- A step of reading nodes. -/
abbrev Read := StateT Reading (Except Problem)

namespace Read

def fail {α : Type} : Read α :=
  throw .unreadable

def peek : Read (Option Token) := do
  return (← get).tokens.head?

def next : Read Unit :=
  modify fun r => { r with tokens := r.tokens.tail }

/-- Moves over a token of the given kind, if one is ahead. -/
def accept (t : Token) : Read Bool := do
  if (← peek) == some t then
    next
    return true
  else return false

def at? (ts : List Token) : Read Bool := do
  return (← peek).any ts.contains

/-- The anchor and the tag before a node, in either order. -/
def properties : Read (Option String × Option WrittenTag) := do
  match ← peek with
  | some (.anchor a) =>
    next
    match ← peek with
    | some (.tag t) =>
      next
      return (some a, some t)
    | _ => return (some a, none)
  | some (.tag t) =>
    next
    match ← peek with
    | some (.anchor a) =>
      next
      return (some a, some t)
    | _ => return (none, some t)
  | _ => return (none, none)

/-- The name of a tag, its handle resolved. -/
def tagName (t : WrittenTag) : Read String := do
  match t.handle with
  | none => return t.suffix
  | some h =>
    match (← get).handles.lookup h with
    | some meaning => return meaning ++ t.suffix
    | none => fail

/-- Announces a node with an anchor. -/
def openAnchor : Option String → Read Unit
  | none => return
  | some a => do
    if (← get).anchors.any fun x => x.1 == a then fail
    else modify fun r => { r with anchors := (a, none) :: r.anchors }

/-- Makes a complete node known under its anchor. -/
def closeAnchor (node : Node) : Option String → Read Unit
  | none => return
  | some a => modify fun r => { r with anchors := (a, some node) :: r.anchors }

def aliased (name : String) : Read Node := do
  match (← get).anchors.lookup name with
  | some (some node) => return node
  | _ => fail

/-- The kind of a node that has no tag, a tag of a single mark, or a named tag. -/
def kind (name : Option String) (untagged : Tag) : Tag :=
  match name with
  | none => untagged
  | some n => if n = "!" then untagged else .ofName n

def absent : Node :=
  .scalar .null ""

mutual

/-- A node. In a block it may itself be a block, and after a key also a sequence that is not
indented. -/
def node (block unindented : Bool) : Nat → Read Node
  | 0 => fail
  | fuel + 1 => do
    match ← peek with
    | some (.alias name) =>
      next
      aliased name
    | _ =>
      let (anchor, tag) ← properties
      let name ← tag.mapM tagName
      openAnchor anchor
      let result ← content block unindented (anchor.isSome || tag.isSome) name fuel
      closeAnchor result anchor
      return result

/-- A node after its anchor and tag. `marked` says that there was one. -/
def content (block unindented marked : Bool) (name : Option String) : Nat → Read Node
  | 0 => fail
  | fuel + 1 => do
    match ← peek with
    | some (.scalar s plain) =>
      next
      let looks := if plain || name == some "!" then Tag.ofPlain s else .text
      return .scalar (kind name looks) s
    | some .flowSequenceStart =>
      next
      return .sequence (kind name .list) (← flowItems true fuel)
    | some .flowMappingStart =>
      next
      return .mapping (kind name .map) (← flowEntries true fuel)
    | some .blockEntry =>
      if unindented then return .sequence (kind name .list) (← unindentedItems fuel)
      else if marked then return .scalar (kind name .null) ""
      else fail
    | some .blockSequenceStart =>
      if block then
        next
        return .sequence (kind name .list) (← blockItems fuel)
      else if marked then return .scalar (kind name .null) ""
      else fail
    | some .blockMappingStart =>
      if block then
        next
        return .mapping (kind name .map) (← blockEntries fuel)
      else if marked then return .scalar (kind name .null) ""
      else fail
    | _ => if marked then return .scalar (kind name .null) "" else fail

/-- A node, unless one of the given tokens is ahead. -/
def nodeUnless (stops : List Token) (endStops block unindented : Bool) : Nat → Read Node
  | 0 => fail
  | fuel + 1 => do
    let stop := match ← peek with
      | none => endStops
      | some t => stops.contains t
    if stop then return absent else node block unindented fuel

/-- The items of an indented sequence. -/
def blockItems : Nat → Read (List Node)
  | 0 => fail
  | fuel + 1 => do
    if ← accept .blockEntry then
      let item ← nodeUnless [.blockEntry, .blockEnd] false true false fuel
      return item :: (← blockItems fuel)
    else if ← accept .blockEnd then return []
    else fail

/-- The items of a sequence that is not indented. -/
def unindentedItems : Nat → Read (List Node)
  | 0 => fail
  | fuel + 1 => do
    if ← accept .blockEntry then
      let item ← nodeUnless [.blockEntry, .key, .value, .blockEnd] false true false fuel
      return item :: (← unindentedItems fuel)
    else return []

/-- The entries of a mapping in a block. Either side of an entry may be absent. -/
def blockEntries : Nat → Read (List (Node × Node))
  | 0 => fail
  | fuel + 1 => do
    if ← accept .blockEnd then return []
    else
      if !(← accept .key) then fail
      let stops := [.key, .value, .blockEnd]
      let k ← nodeUnless stops false true true fuel
      let v ← if ← accept .value then nodeUnless stops false true true fuel else pure absent
      return (k, v) :: (← blockEntries fuel)

/-- The items of a list in brackets. A key makes an item that is a map of one entry. -/
def flowItems (first : Bool) : Nat → Read (List Node)
  | 0 => fail
  | fuel + 1 => do
    if ← accept .flowSequenceEnd then return []
    else
      if !first then
        if !(← accept .flowEntry) then fail
      if ← accept .key then
        let k ← nodeUnless [.value, .flowEntry, .flowSequenceEnd] false false false fuel
        let v ← if ← accept .value then
            nodeUnless [.flowEntry, .flowSequenceEnd] false false false fuel
          else pure absent
        return .mapping .map [(k, v)] :: (← flowItems false fuel)
      else if ← accept .flowSequenceEnd then return []
      else
        let item ← node false false fuel
        return item :: (← flowItems false fuel)

/-- The entries of a map in braces. -/
def flowEntries (first : Bool) : Nat → Read (List (Node × Node))
  | 0 => fail
  | fuel + 1 => do
    if ← accept .flowMappingEnd then return []
    else
      if !first then
        if !(← accept .flowEntry) then fail
      if ← accept .key then
        let k ← nodeUnless [.value, .flowEntry, .flowMappingEnd] false false false fuel
        let v ← if ← accept .value then
            nodeUnless [.flowEntry, .flowMappingEnd] false false false fuel
          else pure absent
        return (k, v) :: (← flowEntries false fuel)
      else if ← accept .flowMappingEnd then return []
      else
        let k ← node false false fuel
        return (k, absent) :: (← flowEntries false fuel)

end

/-! ## Documents -/

/-- The handles that stand for something unless a directive says otherwise. -/
def usualHandles : List (String × String) :=
  [("!", "!"), ("!!", commonTags)]

/-- The directives before a document. The version is given once at most and is 1, and no handle
is given twice. -/
def directives (versioned : Bool) : Nat → Read Unit
  | 0 => fail
  | fuel + 1 => do
    match ← peek with
    | some (.directive d) =>
      next
      match d with
      | .version major => if versioned || major != 1 then fail else directives true fuel
      | .handle name meaning =>
        if (← get).handles.any fun h => h.1 == name then fail
        else
          modify fun r => { r with handles := (name, meaning) :: r.handles }
          directives versioned fuel
      | .other => directives versioned fuel
    | _ => modify fun r => { r with handles := r.handles ++ usualHandles }

def skipEnds : Read Unit :=
  modify fun r => { r with tokens := r.tokens.dropWhile (· == .documentEnd) }

/-- The only document of a text. Without one, the text is null. -/
def document (fuel : Nat) : Read Node := do
  let first ← match ← peek with
    | none => pure absent
    | some t =>
      let explicit := match t with
        | .directive _ | .documentStart => true
        | _ => false
      directives false fuel
      if explicit then
        if !(← accept .documentStart) then fail
        match ← peek with
        | none | some (.directive _) | some .documentStart | some .documentEnd => pure absent
        | _ => node true false fuel
      else node true false fuel
  skipEnds
  if (← peek).isSome then fail else return first

end Read

def Node.ofTokens? (ts : List Token) : Except Problem Node :=
  ((Read.document (4 * ts.length + 8)).run { tokens := ts }).map Prod.fst

end FlowWarden.Document.Yaml
