import FlowWarden.Document.Yaml.Scalar
import FlowWarden.Document.Yaml.Token
/-!
# From a text to its tokens

`tokens` reads a text one token at a time. The lexer keeps the indentation of the open blocks and
the places where a key may have begun: whether there is one is known only at the colon after it,
and then its mark is put in front of it. A key must end on its own line, within 1024 characters.
-/

namespace FlowWarden.Document.Yaml

/-! ## Names and tags -/

/-- A letter, a digit, a dash or an underscore. -/
def isWordChar (c : Char) : Bool :=
  c.isAlphanum || c == '-' || c == '_'

/-- The name of an anchor or an alias, from its sign on. -/
def readName (c : Cursor) : Except Problem (String × Cursor) :=
  let (cs, c) := c.advance.span isWordChar
  if cs.isEmpty || !(isGapOrEnd c.peek || c.peek.any ("?:,]\x7d%@\x60".contains ·)) then
    .error .unreadable
  else .ok (String.ofList cs, c)

/-- The handle at the start of a tag: one mark, or a word between two. -/
def readHandle (c : Cursor) : Except Problem (String × Cursor) :=
  if c.peek != some '!' then .error .unreadable
  else if c.peek 1 == some ' ' then .ok ("!", c.advance)
  else
    let (cs, after) := c.advance.span isWordChar
    if after.peek != some '!' then .error .unreadable
    else .ok (String.ofList ('!' :: cs ++ ['!']), after.advance)

/-- A character that stands for itself in a tag. -/
def isTagChar (c : Char) : Bool :=
  isWordChar c || ";/?:@&=+$,.!~*'()[]".contains c

/-- The bytes that a run of percent signs gives in hexadecimal digits. -/
def readPercentBytes : Nat → Cursor → Except Problem (List UInt8 × Cursor)
  | 0, _ => .error .unreadable
  | fuel + 1, c =>
    if c.peek != some '%' then .ok ([], c)
    else
      let ds := c.advance.rest.take 2
      match hexNumber? ds with
      | some n =>
        if ds.length < 2 then .error .unreadable
        else do
          let (bytes, c) ← readPercentBytes fuel (c.skip 3)
          pure (UInt8.ofNat n :: bytes, c)
      | none => .error .unreadable

/-- The characters of a tag after its handle. -/
def tagChars : Nat → Cursor → Except Problem (List Char × Cursor)
  | 0, _ => .error .unreadable
  | fuel + 1, c => do
    let (cs, c) := c.span isTagChar
    if c.peek != some '%' then pure (cs, c)
    else
      let (bytes, c) ← readPercentBytes c.fuel c
      match String.fromUTF8? ⟨bytes.toArray⟩ with
      | none => .error .unreadable
      | some s => do
        let (more, c) ← tagChars fuel c
        pure (cs ++ s.toList ++ more, c)

/-- A tag after its handle. -/
def readTagSuffix (c : Cursor) : Except Problem (String × Cursor) := do
  let (cs, c) ← tagChars c.fuel c
  if cs.isEmpty then .error .unreadable else pure (String.ofList cs, c)

/-- A tag: `!<name>`, a single mark, or a handle with what follows it. -/
def readTag (c : Cursor) : Except Problem (WrittenTag × Cursor) := do
  let (t, c) ←
    if c.peek 1 == some '<' then do
      let (suffix, c) ← readTagSuffix (c.skip 2)
      if c.peek != some '>' then throw Problem.unreadable
      pure ((⟨none, suffix⟩ : WrittenTag), c.advance)
    else if isGapOrEnd (c.peek 1) then pure (⟨none, "!"⟩, c.advance)
    else do
      let word := c.advance.rest.takeWhile fun ch => !(ch == ' ' || isBreak ch)
      let (handle, c) ← if word.contains '!' then readHandle c else pure ("!", c.advance)
      let (suffix, c) ← readTagSuffix c
      pure (⟨some handle, suffix⟩, c)
  if isSpaceOrEnd c.peek then pure (t, c) else .error .unreadable

/-! ## Directives -/

def readVersionNumber (c : Cursor) : Except Problem (Nat × Cursor) :=
  let (cs, c) := c.span Char.isDigit
  if cs.isEmpty then .error .unreadable
  else .ok (Text.digitsValue cs, c)

/-- The two numbers of a version, of which the first counts. -/
def readVersion (c : Cursor) : Except Problem (Directive × Cursor) := do
  let (major, c) ← readVersionNumber c.skipSpaces
  if c.peek != some '.' then .error .unreadable
  else
    let (_, c) ← readVersionNumber c.advance
    if isSpaceOrEnd c.peek then pure (.version major, c) else .error .unreadable

/-- A handle and what it stands for. -/
def readHandleMeaning (c : Cursor) : Except Problem (Directive × Cursor) := do
  let (name, c) ← readHandle c.skipSpaces
  if c.peek != some ' ' then .error .unreadable
  else
    let (meaning, c) ← readTagSuffix c.skipSpaces
    if isSpaceOrEnd c.peek then pure (.handle name meaning, c) else .error .unreadable

/-- A directive with its line, from the percent sign on. -/
def readDirective (c : Cursor) : Except Problem (Directive × Cursor) := do
  let (name, c) := c.advance.span isWordChar
  if name.isEmpty || !isSpaceOrEnd c.peek then .error .unreadable
  else
    let (d, c) ← match String.ofList name with
      | "YAML" => readVersion c
      | "TAG" => readHandleMeaning c
      | _ => pure (.other, c.skipWhile fun ch => !isBreak ch)
    let c ← endOfLine c
    pure (d, c)

/-! ## The lexer -/

/-- A place where a key may have begun. -/
structure PossibleKey where
  /-- How many tokens come before it. -/
  token : Nat
  /-- Whether nothing but a key can stand there. -/
  required : Bool
  place : Cursor

/-- A text read so far. -/
structure Lexer where
  place : Cursor
  tokens : Array Token := #[]
  /-- The number of open brackets and braces. -/
  depth : Nat := 0
  /-- The indentation of the innermost block, and of those around it. -/
  indent : Int := -1
  outer : List Int := []
  /-- Whether a key may begin here. -/
  keyAllowed : Bool := true
  /-- The possible keys, one at most for each depth. -/
  keys : List (Nat × PossibleKey) := []

namespace Lexer

def push (l : Lexer) (t : Token) : Lexer :=
  { l with tokens := l.tokens.push t }

/-- Adds a token of so many characters. -/
def pushMark (l : Lexer) (t : Token) (width : Nat := 1) : Lexer :=
  { l.push t with place := l.place.skip width }

/-- The possible key at the present depth. -/
def possibleKey? (l : Lexer) : Option PossibleKey :=
  (l.keys.find? fun k => k.1 == l.depth).map Prod.snd

def dropKey (l : Lexer) : Lexer :=
  { l with keys := l.keys.filter fun k => k.1 != l.depth }

/-- Gives up the possible key at the present depth, which must not be required. -/
def abandonKey (l : Lexer) : Except Problem Lexer :=
  if l.possibleKey?.any PossibleKey.required then .error .unreadable else .ok l.dropKey

/-- Remembers that a key may begin here. -/
def saveKey (l : Lexer) : Except Problem Lexer := do
  if !l.keyAllowed then pure l
  else
    let l ← l.abandonKey
    let required := l.depth == 0 && l.indent == l.place.column
    pure { l with keys := (l.depth, ⟨l.tokens.size, required, l.place⟩) :: l.keys }

/-- Whether a key that began at a place can no longer end here. -/
def isStale (l : Lexer) (k : PossibleKey) : Bool :=
  k.place.line != l.place.line || 1024 < l.place.index - k.place.index

/-- Gives up the possible keys that can no longer end. -/
def dropStaleKeys (l : Lexer) : Except Problem Lexer :=
  if l.keys.any fun k => l.isStale k.2 && k.2.required then .error .unreadable
  else .ok { l with keys := l.keys.filter fun k => !l.isStale k.2 }

/-- Opens a block if its column is deeper than the innermost one. -/
def deepen (l : Lexer) (column : Nat) : Option Lexer :=
  if l.indent < column then some { l with outer := l.indent :: l.outer, indent := column }
  else none

/-- Opens a block that begins here, with its mark. -/
def openBlock (l : Lexer) (start : Token) : Lexer :=
  match l.deepen l.place.column with
  | some l => l.push start
  | none => l

/-- Closes the blocks of the given indentations that are deeper than a column. -/
def closeBlocks (column : Int) : Int → List Int → Lexer → Lexer
  | indent, [], l => { l with indent, outer := [] }
  | indent, i :: is, l =>
    if column < indent then closeBlocks column i is (l.push .blockEnd)
    else { l with indent, outer := i :: is }

/-- Closes the blocks that are deeper than a column. Inside brackets indentation is free. -/
def closeTo (l : Lexer) (column : Int) : Lexer :=
  if l.depth = 0 then closeBlocks column l.indent l.outer l else l

/-- Moves over blanks, comments and line breaks. After a line break a key may begin. -/
def skipGap : Nat → Lexer → Lexer
  | 0, l => l
  | fuel + 1, l =>
    let c := l.place.skipSpaces
    let c := if c.peek == some '#' then c.skipWhile fun ch => !isBreak ch else c
    match c.lineBreak with
    | some (_, c) => skipGap fuel { l with place := c, keyAllowed := l.keyAllowed || l.depth == 0 }
    | none => { l with place := c }

/-- A token before which all blocks end. -/
def atMargin (l : Lexer) : Except Problem Lexer := do
  let l ← (l.closeTo (-1)).abandonKey
  pure { l with keyAllowed := false }

/-- The start of a list or a map in brackets. -/
def openFlow (l : Lexer) (start : Token) : Except Problem Lexer := do
  let l ← l.saveKey
  pure ({ l with depth := l.depth + 1, keyAllowed := true }.pushMark start)

/-- The end of a list or a map in brackets. -/
def closeFlow (l : Lexer) (finish : Token) : Except Problem Lexer := do
  let l ← l.abandonKey
  if l.depth = 0 then .error .unreadable
  else pure ({ l with depth := l.depth - 1, keyAllowed := false }.pushMark finish)

/-- The comma between items. -/
def flowEntry (l : Lexer) : Except Problem Lexer := do
  let l ← { l with keyAllowed := true }.abandonKey
  pure (l.pushMark .flowEntry)

/-- The dash before an item. -/
def blockEntry (l : Lexer) : Except Problem Lexer := do
  if l.depth = 0 ∧ l.keyAllowed = false then .error .unreadable
  else
    let l := if l.depth = 0 then l.openBlock .blockSequenceStart else l
    let l ← { l with keyAllowed := true }.abandonKey
    pure (l.pushMark .blockEntry)

/-- The question mark before a key. -/
def explicitKey (l : Lexer) : Except Problem Lexer := do
  if l.depth = 0 ∧ l.keyAllowed = false then .error .unreadable
  else
    let l := if l.depth = 0 then l.openBlock .blockMappingStart else l
    let l ← { l with keyAllowed := l.depth == 0 }.abandonKey
    pure (l.pushMark .key)

/-- The colon after a key that has no question mark. -/
def endKey (l : Lexer) (k : PossibleKey) : Lexer :=
  let l := { l.dropKey with
    tokens := l.tokens.insertIdxIfInBounds k.token .key
    keyAllowed := false }
  let l := if l.depth = 0 then
      match l.deepen k.place.column with
      | some l => { l with tokens := l.tokens.insertIdxIfInBounds k.token .blockMappingStart }
      | none => l
    else l
  l.pushMark .value

/-- The colon before a value. -/
def value (l : Lexer) : Except Problem Lexer := do
  match l.possibleKey? with
  | some k => pure (l.endKey k)
  | none =>
    if l.depth = 0 ∧ l.keyAllowed = false then .error .unreadable
    else
      let l := if l.depth = 0 then l.openBlock .blockMappingStart else l
      let l ← { l with keyAllowed := l.depth == 0 }.abandonKey
      pure (l.pushMark .value)

/-- A token with which a key may begin. -/
def content {α : Type} (l : Lexer) (read : Cursor → Except Problem (α × Cursor))
    (token : α → Token) : Except Problem Lexer := do
  let l ← l.saveKey
  let (x, c) ← read l.place
  pure { l.push (token x) with place := c, keyAllowed := false }

/-- A block of lines. A key may follow it. -/
def blockScalar (l : Lexer) : Except Problem Lexer := do
  let l ← l.abandonKey
  let (s, c) ← readBlockScalar l.indent l.place
  pure { l.push (.scalar s false) with place := c, keyAllowed := true }

/-- A plain scalar. A key may follow it on a new line. -/
def plainScalar (l : Lexer) : Except Problem Lexer := do
  let l ← l.saveKey
  let (cs, broken, c) := plainText (l.depth != 0) (l.indent + 1) l.place.fuel [] false l.place
  pure { l.push (.scalar (String.ofList cs) true) with place := c, keyAllowed := broken }

/-- Whether a plain scalar can begin with a character, given the one after it. -/
def startsPlain (l : Lexer) (ch : Char) (next : Option Char) : Bool :=
  !(isGapOrEnd (some ch) || "-?:,[]\x7b\x7d#&*!|>'\"%@\x60".contains ch) ||
    (!isGapOrEnd next && (ch == '-' || (l.depth == 0 && (ch == '?' || ch == ':'))))

/-- The token that begins with the character ahead. -/
def step (l : Lexer) (ch : Char) : Except Problem Lexer :=
  let next := l.place.peek 1
  let flow := l.depth != 0
  if ch == '%' && l.place.column == 0 then do
    let l ← l.atMargin
    let (d, c) ← readDirective l.place
    pure { l.push (.directive d) with place := c }
  else if (ch == '-' || ch == '.') && l.place.column == 0 && l.place.atSeparator then do
    let l ← l.atMargin
    pure (l.pushMark (if ch = '-' then .documentStart else .documentEnd) 3)
  else if ch == '[' then l.openFlow .flowSequenceStart
  else if ch == '\x7b' then l.openFlow .flowMappingStart
  else if ch == ']' then l.closeFlow .flowSequenceEnd
  else if ch == '\x7d' then l.closeFlow .flowMappingEnd
  else if ch == ',' then l.flowEntry
  else if ch == '-' && isGapOrEnd next then l.blockEntry
  else if ch == '?' && (flow || isGapOrEnd next) then l.explicitKey
  else if ch == ':' && (flow || isGapOrEnd next) then l.value
  else if ch == '*' then l.content readName .alias
  else if ch == '&' then l.content readName .anchor
  else if ch == '!' then l.content readTag .tag
  else if (ch == '|' || ch == '>') && !flow then l.blockScalar
  else if ch == '\'' || ch == '"' then l.content readQuotedScalar fun s => .scalar s false
  else if l.startsPlain ch next then l.plainScalar
  else .error .unreadable

/-- Reads on to the end of the text. -/
def run : Nat → Lexer → Except Problem (List Token)
  | 0, _ => .error .unreadable
  | fuel + 1, l => do
    let l ← (skipGap l.place.fuel l).dropStaleKeys
    let l := l.closeTo l.place.column
    match l.place.peek with
    | none =>
      let l ← l.atMargin
      pure l.tokens.toList
    | some ch =>
      let l ← l.step ch
      run fuel l

end Lexer

/-- The tokens of a text. A byte order mark before it is skipped. -/
def tokens (cs : List Char) : Except Problem (List Token) :=
  let c : Cursor := ⟨cs, 0, 0, 0⟩
  Lexer.run (c.fuel + 1) { place := if c.peek == some '\ufeff' then c.advance else c }

end FlowWarden.Document.Yaml
