import FlowWarden.Document.Json.Reader
import FlowWarden.Document.Yaml.Cursor
/-!
# Scalars with and without quotes

The text of a scalar as it is written: between quotes, as a block of indented lines, or plain.
Lines of a quoted or plain scalar are joined by a blank, and empty lines between them count as
line breaks.
-/

namespace FlowWarden.Document.Yaml

/-! ## Between quotes -/

/-- The line breaks ahead, each with the blanks before it. A mark between documents must not
come first on a line. -/
def quotedBreaks : Nat → Cursor → Except Problem (List Char × Cursor)
  | 0, _ => .error .unreadable
  | fuel + 1, c =>
    if c.atSeparator then .error .unreadable
    else
      let c := c.skipWhile fun ch => ch == ' ' || ch == '\t'
      match c.lineBreak with
      | none => .ok ([], c)
      | some (ch, c) => do
        let (chs, c) ← quotedBreaks fuel c
        pure (ch :: chs, c)

/-- Lines joined: a single break is a blank, further ones are kept. -/
def foldBreaks (first : Char) (breaks : List Char) : List Char :=
  if first ≠ '\n' then first :: breaks
  else if breaks.isEmpty then [' ']
  else breaks

/-- The character that an escape of one letter stands for. -/
def simpleEscape? : Char → Option Char
  | '0' => some (Char.ofNat 0)
  | 'a' => some (Char.ofNat 7)
  | 'b' => some (Char.ofNat 8)
  | 't' | '\t' => some '\t'
  | 'n' => some '\n'
  | 'v' => some (Char.ofNat 11)
  | 'f' => some (Char.ofNat 12)
  | 'r' => some '\r'
  | 'e' => some (Char.ofNat 27)
  | ' ' => some ' '
  | '"' => some '"'
  | '\\' => some '\\'
  | '/' => some '/'
  | 'N' => some '\u0085'
  | '_' => some '\u00a0'
  | 'L' => some '\u2028'
  | 'P' => some '\u2029'
  | _ => none

/-- How many digits follow an escape that gives a number. -/
def numericEscapeWidth? : Char → Option Nat
  | 'x' => some 2
  | 'u' => some 4
  | 'U' => some 8
  | _ => none

def hexNumber? (ds : List Char) : Option Nat :=
  (ds.mapM Json.hexValue?).map (Text.ofDigits 16)

/-- An escape after its backslash. -/
def quotedEscape (c : Cursor) : Except Problem (List Char × Cursor) :=
  match c.peek with
  | none => .error .unreadable
  | some ch =>
    match simpleEscape? ch with
    | some r => .ok ([r], c.advance)
    | none =>
      match numericEscapeWidth? ch with
      | some width =>
        let ds := c.advance.rest.take width
        if ds.length < width then .error .unreadable
        else match hexNumber? ds with
          | none => .error .unreadable
          | some n =>
            if 0x80000000 ≤ n then .error .hugeCharacter
            else if 0x110000 ≤ n then .error (.invalidValue "chr() arg not in range(0x110000)")
            else .ok ([if n.isValidChar then Char.ofNat n else '\ufffd'], c.skip (width + 1))
      | none =>
        if isBreak ch then quotedBreaks c.fuel c.skipBreak else .error .unreadable

/-- The characters up to the closing quote, in reverse before `read`. -/
def quotedText (double : Bool) : Nat → List Char → Cursor → Except Problem (List Char × Cursor)
  | 0, _, _ => .error .unreadable
  | fuel + 1, read, c =>
    match c.peek with
    | none => .error .unreadable
    | some '\'' =>
      if double then quotedText double fuel ('\'' :: read) c.advance
      else if c.peek 1 == some '\'' then quotedText double fuel ('\'' :: read) (c.skip 2)
      else .ok (read.reverse, c.advance)
    | some '"' =>
      if double then .ok (read.reverse, c.advance)
      else quotedText double fuel ('"' :: read) c.advance
    | some '\\' =>
      if double then do
        let (chs, c) ← quotedEscape c.advance
        quotedText double fuel (chs.reverse ++ read) c
      else quotedText double fuel ('\\' :: read) c.advance
    | some ch =>
      if ch = ' ' ∨ ch = '\t' ∨ isBreak ch = true then do
        let (spaces, c) := c.span fun ch => ch == ' ' || ch == '\t'
        match c.lineBreak with
        | none => quotedText double fuel (spaces.reverse ++ read) c
        | some (first, c) => do
          let (breaks, c) ← quotedBreaks c.fuel c
          quotedText double fuel ((foldBreaks first breaks).reverse ++ read) c
      else quotedText double fuel (ch :: read) c.advance

/-- A scalar between quotes, from its opening quote on. -/
def readQuotedScalar (c : Cursor) : Except Problem (String × Cursor) := do
  let double := c.peek == some '"'
  let (cs, c) ← quotedText double c.fuel [] c.advance
  pure (String.ofList cs, c)

/-! ## Blocks of lines -/

/-- What happens to the line breaks at the end of a block. -/
inductive Chomping
  | strip
  | clip
  | keep
deriving DecidableEq

/-- The marks after the sign of a block. -/
def blockHeader (c : Cursor) : Except Problem ((Chomping × Option Nat) × Cursor) :=
  let chomp := fun (c : Cursor) => match c.peek with
    | some '+' => (some Chomping.keep, c.advance)
    | some '-' => (some Chomping.strip, c.advance)
    | _ => (none, c)
  let digit := fun (c : Cursor) => match c.peek with
    | some d => if d.isDigit then (some (Text.digitValue d), c.advance) else (none, c)
    | none => (none, c)
  let (first, c) := chomp c
  let (increment, c) := digit c
  let (chomping, c) := match first, increment with
    | some x, _ => (some x, c)
    | none, some _ => chomp c
    | none, none => (none, c)
  if increment = some 0 ∨ isSpaceOrEnd c.peek = false then .error .unreadable
  else .ok ((chomping.getD .clip, increment), c)

/-- The end of a line that holds nothing more than a comment. -/
def endOfLine (c : Cursor) : Except Problem Cursor :=
  let c := c.skipSpaces
  let c := if c.peek == some '#' then c.skipWhile fun ch => !isBreak ch else c
  if isBreakOrEnd c.peek then .ok c.skipBreak else .error .unreadable

/-- The line breaks before the first line of a block, and the deepest indentation so far. -/
def blockIndentation : Nat → Nat → Cursor → List Char × Nat × Cursor
  | 0, deepest, c => ([], deepest, c)
  | fuel + 1, deepest, c =>
    if c.peek == some ' ' then
      let c := c.advance
      blockIndentation fuel (max deepest c.column) c
    else match c.lineBreak with
      | none => ([], deepest, c)
      | some (ch, c) =>
        let (chs, deepest, c) := blockIndentation fuel deepest c
        (ch :: chs, deepest, c)

/-- Moves over blanks up to a column. -/
def indentTo (column : Nat) : Nat → Cursor → Cursor
  | 0, c => c
  | fuel + 1, c =>
    if c.column < column ∧ c.peek = some ' ' then indentTo column fuel c.advance else c

/-- The line breaks between two lines of a block. -/
def blockBreaks (indent : Nat) : Nat → Cursor → List Char × Cursor
  | 0, c => ([], c)
  | fuel + 1, c =>
    let c := indentTo indent c.fuel c
    match c.lineBreak with
    | none => ([], c)
    | some (ch, c) =>
      let (chs, c) := blockBreaks indent fuel c
      (ch :: chs, c)

/-- The lines of a block after the breaks before them: their text, the last line break, and the
breaks that follow it. -/
def blockLines (folded : Bool) (indent : Nat) :
    Nat → List Char → Cursor → List Char × Option Char × List Char × Cursor
  | 0, breaks, c => ([], none, breaks, c)
  | fuel + 1, breaks, c =>
    if c.column ≠ indent ∨ c.peek = none then ([], none, breaks, c)
    else
      let isText := fun c : Cursor => c.peek != some ' ' && c.peek != some '\t'
      let wasText := isText c
      let (line, c) := c.span fun ch => !isBreak ch
      let (ending, c) := match c.lineBreak with
        | some (ch, c) => (some ch, c)
        | none => (none, c)
      let (next, c) := blockBreaks indent c.fuel c
      if c.column = indent ∧ c.peek ≠ none then
        let joint :=
          if folded && ending == some '\n' && wasText && isText c then
            if next.isEmpty then [' '] else []
          else ending.toList
        let (more, last, tail, c) := blockLines folded indent fuel next c
        (breaks ++ line ++ joint ++ more, last, tail, c)
      else (breaks ++ line, ending, next, c)

/-- A block of lines, from its sign on. `indent` is the indentation around it. -/
def readBlockScalar (indent : Int) (c : Cursor) : Except Problem (String × Cursor) := do
  let folded := c.peek == some '>'
  let ((chomping, increment), c) ← blockHeader c.advance
  let c ← endOfLine c
  let least := max (indent + 1) 1 |>.toNat
  let (breaks, column, c) := match increment with
    | some n =>
      let (breaks, c) := blockBreaks (least + n - 1) c.fuel c
      (breaks, least + n - 1, c)
    | none =>
      let (breaks, deepest, c) := blockIndentation c.fuel 0 c
      (breaks, max least deepest, c)
  let (lines, last, tail, c) := blockLines folded column c.fuel breaks c
  let ending := match chomping with
    | .strip => []
    | .clip => last.toList
    | .keep => last.toList ++ tail
  pure (String.ofList (lines ++ ending), c)

/-! ## Plain scalars -/

/-- Whether a plain scalar ends before the characters ahead. -/
def endsPlain (flow : Bool) (rest : List Char) : Bool :=
  match rest with
  | [] => true
  | ch :: rest =>
    isGapOrEnd (some ch) ||
      (ch == ':' &&
        (isGapOrEnd rest.head? || (flow && rest.head?.any (",[]\x7b\x7d".contains ·)))) ||
      (flow && ",?[]\x7b\x7d".contains ch)

/-- The characters of a plain scalar up to the next gap. -/
def plainWord (flow : Bool) : List Char → List Char
  | [] => []
  | ch :: rest => if endsPlain flow (ch :: rest) then [] else ch :: plainWord flow rest

/-- The gap ahead as it is read, whether it holds a line break, and the place after it. -/
structure Gap where
  text : List Char
  broken : Bool
  after : Cursor

/-- The line breaks and blanks ahead, as breaks. `none` if a mark between documents follows. -/
def plainBreaks : Nat → Cursor → Option (List Char) × Cursor
  | 0, c => (none, c)
  | fuel + 1, c =>
    if c.peek == some ' ' then plainBreaks fuel c.advance
    else match c.lineBreak with
      | none => (some [], c)
      | some (ch, c) =>
        if c.atSeparator then (none, c)
        else
          let (chs, c) := plainBreaks fuel c
          (chs.map (ch :: ·), c)

/-- The gap after a word of a plain scalar. -/
def plainGap (c : Cursor) : Gap :=
  let (spaces, c) := c.span (· == ' ')
  match c.lineBreak with
  | none => ⟨spaces, false, c⟩
  | some (first, c) =>
    if c.atSeparator then ⟨[], true, c⟩
    else match plainBreaks c.fuel c with
      | (none, c) => ⟨[], true, c⟩
      | (some breaks, c) => ⟨foldBreaks first breaks, true, c⟩

/-- A plain scalar: its text, whether it ends after a line break, and the place after it. -/
def plainText (flow : Bool) (indent : Int) :
    Nat → List Char → Bool → Cursor → List Char × Bool × Cursor
  | 0, _, broken, c => ([], broken, c)
  | fuel + 1, gap, broken, c =>
    if c.peek == some '#' then ([], broken, c)
    else
      let word := plainWord flow c.rest
      if word.isEmpty then ([], broken, c)
      else
        let g := plainGap (c.skip word.length)
        if g.text.isEmpty || g.after.peek == some '#' ||
            (!flow && decide ((g.after.column : Int) < indent)) then
          (gap ++ word, g.broken, g.after)
        else
          let (more, broken, c) := plainText flow indent fuel g.text g.broken g.after
          (gap ++ word ++ more, broken, c)

end FlowWarden.Document.Yaml
