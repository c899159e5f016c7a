/-!
# A place in a YAML text

`Cursor` is what is left of a text and where that begins. Lines end at a newline, at U+0085 and
at the separators U+2028 and U+2029; all but the last two are read as a newline.
-/

namespace FlowWarden.Document.Yaml

/-- Why a text has no document. -/
inductive Problem
  /-- It is not YAML, or holds more than one document. -/
  | unreadable
  /-- A value is not of the kind that it is written as. -/
  | invalidValue (why : String)
  /-- A word that is said to be a truth value is none. -/
  | unknownTruthValue
  /-- A number that is said to be there is not. -/
  | emptyNumber
  /-- A text that is said to be a date is none. -/
  | notADate
  /-- An escape gives a number beyond all characters and beyond 31 bits. -/
  | hugeCharacter
deriving DecidableEq, Repr

def isBreak (c : Char) : Bool :=
  c == '\n' || c == '\r' || c == '\u0085' || c == '\u2028' || c == '\u2029'

/-- A line break, or the end of the text. -/
def isBreakOrEnd : Option Char → Bool
  | none => true
  | some c => isBreak c

/-- A blank, a line break, or the end of the text. -/
def isSpaceOrEnd (c : Option Char) : Bool :=
  c == some ' ' || isBreakOrEnd c

/-- A blank, a tab, a line break, or the end of the text. -/
def isGapOrEnd (c : Option Char) : Bool :=
  c == some '\t' || isSpaceOrEnd c

/-- What is left of a text, and the place where it begins. -/
structure Cursor where
  rest : List Char
  index : Nat := 0
  line : Nat := 0
  column : Nat := 0

namespace Cursor

/-- The character `n` places ahead. -/
def peek (c : Cursor) (n : Nat := 0) : Option Char :=
  c.rest[n]?

/-- Moves over one character. A byte order mark takes no column. -/
def advance (c : Cursor) : Cursor :=
  match c.rest with
  | [] => c
  | ch :: rest =>
    if isBreak ch then ⟨rest, c.index + 1, c.line + 1, 0⟩
    else ⟨rest, c.index + 1, c.line, if ch = '\ufeff' then c.column else c.column + 1⟩

def skip : Nat → Cursor → Cursor
  | 0, c => c
  | n + 1, c => skip n c.advance

/-- The characters ahead that have a property, and the place after them. -/
def span (p : Char → Bool) (c : Cursor) : List Char × Cursor :=
  let cs := c.rest.takeWhile p
  (cs, c.skip cs.length)

def skipWhile (p : Char → Bool) (c : Cursor) : Cursor :=
  (c.span p).2

def skipSpaces (c : Cursor) : Cursor :=
  c.skipWhile (· == ' ')

/-- The line break ahead as it is read, and the place after it. -/
def lineBreak (c : Cursor) : Option (Char × Cursor) :=
  match c.peek with
  | some ch =>
    if isBreak ch then
      some (if ch = '\u2028' ∨ ch = '\u2029' then ch else '\n', c.advance)
    else none
  | none => none

def skipBreak (c : Cursor) : Cursor :=
  (c.lineBreak.map Prod.snd).getD c

/-- Whether one of the marks between documents is ahead. -/
def atSeparator (c : Cursor) : Bool :=
  (c.rest.take 3 == ['-', '-', '-'] || c.rest.take 3 == ['.', '.', '.']) && isGapOrEnd (c.peek 3)

/-- Enough steps to reach the end of the text. -/
def fuel (c : Cursor) : Nat :=
  c.rest.length + 1

end Cursor

end FlowWarden.Document.Yaml
