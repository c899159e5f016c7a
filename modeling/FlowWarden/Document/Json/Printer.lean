import FlowWarden.Document.Literal
/-!
# Writing JSON

A document as JSON in ASCII: whatever lies outside it is written as UTF-16 units in hexadecimal.
The layout is either one line or one entry a line.
-/

namespace FlowWarden.Document.Json

/-- A code unit as an escape. -/
def unitEscape (n : Nat) : List Char :=
  '\\' :: 'u' :: Text.hexDigits 4 n

/-- One character of a JSON text. -/
def escapedChar (c : Char) : List Char :=
  let n := c.toNat
  if c = '"' ∨ c = '\\' then ['\\', c]
  else if c = '\n' then ['\\', 'n']
  else if c = '\r' then ['\\', 'r']
  else if c = '\t' then ['\\', 't']
  else if n = 8 then ['\\', 'b']
  else if n = 12 then ['\\', 'f']
  else if 0x20 ≤ n ∧ n < 0x80 then [c]
  else if n < 0x10000 then unitEscape n
  else
    let m := n - 0x10000
    unitEscape (0xd800 + m / 0x400) ++ unitEscape (0xdc00 + m % 0x400)

def quotedText (s : String) : String :=
  String.ofList ('"' :: s.toList.flatMap escapedChar ++ ['"'])

/-- A float, with the names that are usual for those that are not finite. -/
def floatText (x : Float) : String :=
  match Binary64.classify x with
  | .nan => "NaN"
  | .infinite negative => if negative then "-Infinity" else "Infinity"
  | .finite .. => Binary64.text x

/-- A document that is neither a list nor a map. -/
def scalarText : Document → String
  | .null => "null"
  | .bool b => if b then "true" else "false"
  | .int n => toString n
  | .float x => floatText x
  | .text s => quotedText s
  | d => quotedText d.display

def keyText : Document → String
  | .text s => quotedText s
  | .null => quotedText "null"
  | .bool b => quotedText (if b then "true" else "false")
  | d => quotedText d.display

/-- What stands between the parts of a list or a map. -/
structure Layout where
  /-- Starts the line of a part at a given depth. -/
  newline : Nat → String
  /-- Ends a part that is not the last one. -/
  separator : String

/-- Everything on one line. -/
def compact : Layout := ⟨fun _ => "", ","⟩

/-- One part a line, two blanks deeper than its list or map. -/
def indented : Layout := ⟨fun depth => "\n" ++ String.ofList (List.replicate (2 * depth) ' '), ","⟩

/-- The parts of a list or a map between its brackets. -/
def enclose (l : Layout) (depth : Nat) (opening closing : String) (parts : List String) : String :=
  if parts.isEmpty then opening ++ closing
  else
    opening ++ String.intercalate l.separator (parts.map fun p => l.newline (depth + 1) ++ p) ++
      l.newline depth ++ closing

mutual

/-- A document that starts at a given depth. -/
def renderAt (l : Layout) (depth : Nat) : Document → String
  | .list items => enclose l depth "[" "]" (renderItems l (depth + 1) items)
  | .map entries => enclose l depth "\x7b" "\x7d" (renderEntries l (depth + 1) entries)
  | .null => scalarText .null
  | .bool b => scalarText (.bool b)
  | .int n => scalarText (.int n)
  | .float x => scalarText (.float x)
  | .decimal d => scalarText (.decimal d)
  | .text s => scalarText (.text s)
  | .date d => scalarText (.date d)
  | .moment m => scalarText (.moment m)

def renderItems (l : Layout) (depth : Nat) : List Document → List String
  | [] => []
  | d :: ds => renderAt l depth d :: renderItems l depth ds

def renderEntries (l : Layout) (depth : Nat) : List (Document × Document) → List String
  | [] => []
  | (k, v) :: es => (keyText k ++ ": " ++ renderAt l depth v) :: renderEntries l depth es

end

def render (l : Layout) (d : Document) : String :=
  renderAt l 0 d

end FlowWarden.Document.Json
