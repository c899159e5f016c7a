import FlowWarden.Document.Yaml.Tag
import FlowWarden.Text.Quoted
/-!
# Writing YAML

A flat map of texts, one entry a line, sorted by key. A text is written plain where it reads back
as a text, between single quotes where these suffice, and otherwise between double quotes with
escapes. Lines longer than 80 characters are folded at blanks.
-/

namespace FlowWarden.Document.Yaml

/-! ## The style of a text -/

/-- What decides how a text can be written. -/
structure Analysis where
  /-- There is a character that only an escape can write. -/
  special : Bool := false
  broken : Bool := false
  /-- There is a blank just after a line break. -/
  blankAfterBreak : Bool := false
  /-- There is a blank just before a line break. -/
  blankBeforeBreak : Bool := false
  /-- There is a sign that means something in a block. -/
  indicator : Bool := false
deriving DecidableEq, Repr

/-- A character that quotes alone can write. -/
def isPlainChar (c : Char) : Bool :=
  c == '\n' || (' ' ≤ c && c ≤ '~')

/-- A blank, a tab, a line break or the end of a text. -/
def endsWord (c : Option Char) : Bool :=
  c.all fun c => c == ' ' || c == '\t' || c == '\n' || c == '\r'

/-- Whether a character means something in a block, given its neighbours. -/
def isIndicator (before : Option Char) (c : Char) (after : Option Char) : Bool :=
  match before with
  | none =>
    "#,[]\x7b\x7d&*!|>'\"%@\x60".contains c || ("?:-".contains c && endsWord after)
  | some b => (c == ':' && endsWord after) || (c == '#' && endsWord (some b))

/-- What the characters after `before` add to an analysis. -/
def analyse (before : Option Char) (a : Analysis) : List Char → Analysis
  | [] => a
  | c :: cs =>
    analyse (some c)
      { special := a.special || !isPlainChar c
        broken := a.broken || c == '\n'
        blankAfterBreak := a.blankAfterBreak || (c == ' ' && before == some '\n')
        blankBeforeBreak := a.blankBeforeBreak || (c == '\n' && before == some ' ')
        indicator := a.indicator || isIndicator before c cs.head? } cs

inductive Style
  | plain
  | single
  | double
deriving DecidableEq, Repr

/-- The way to write a text as a value. -/
def Style.of (s : String) : Style :=
  let cs := s.toList
  let a := analyse none {} cs
  let edge := fun (c : Option Char) => c == some ' ' || c == some '\n'
  let separator := s.startsWith "---" || s.startsWith "..."
  if Tag.ofPlain s == .text && !(a.special || a.broken || a.indicator || separator ||
      edge cs.head? || edge cs.getLast?) then .plain
  else if a.special || a.blankAfterBreak || a.blankBeforeBreak then .double
  else .single

/-! ## Writing -/

/-- The column after which lines are folded. -/
def bestWidth : Nat := 80

/-- What is written so far, in reverse, and the column reached. -/
structure Page where
  written : List Char := []
  column : Nat := 0

namespace Page

def put (p : Page) (cs : List Char) : Page :=
  ⟨cs.reverse ++ p.written, p.column + cs.length⟩

def newline (p : Page) : Page :=
  ⟨'\n' :: p.written, 0⟩

/-- Goes on at the indentation of a value, on a new line unless one has just begun. -/
def indent (p : Page) : Page :=
  (if p.column = 0 then p else p.newline).put [' ', ' ']

end Page

/-- Characters of one kind in a row. -/
inductive Run
  | blanks (n : Nat)
  | breaks (n : Nat)
  | word (cs : List Char)

def runs : List Char → List Run
  | [] => []
  | c :: cs =>
    match c, runs cs with
    | ' ', .blanks n :: rs => .blanks (n + 1) :: rs
    | ' ', rs => .blanks 1 :: rs
    | '\n', .breaks n :: rs => .breaks (n + 1) :: rs
    | '\n', rs => .breaks 1 :: rs
    | c, .word w :: rs => .word (c :: w) :: rs
    | c, rs => .word [c] :: rs

/-- Writes runs. A single blank beyond the width is folded unless it comes first or last, and the
first line break of several is written twice. `quote` is how an apostrophe is written. -/
def putRuns (quote : List Char) : (first : Bool) → List Run → Page → Page
  | _, [], p => p
  | first, .blanks n :: rs, p =>
    let fold := n == 1 && bestWidth < p.column && !first && !rs.isEmpty
    putRuns quote false rs (if fold then p.indent else p.put (List.replicate n ' '))
  | _, .breaks n :: rs, p =>
    putRuns quote false rs ((List.replicate (n + 1) ()).foldl (fun p _ => p.newline) p).indent
  | _, .word cs :: rs, p =>
    putRuns quote false rs (p.put (cs.flatMap fun c => if c = '\'' then quote else [c]))

/-- The letter of an escape, if the character has one. -/
def escapeLetter? (c : Char) : Option Char :=
  [(0x00, '0'), (0x07, 'a'), (0x08, 'b'), (0x09, 't'), (0x0a, 'n'), (0x0b, 'v'), (0x0c, 'f'),
    (0x0d, 'r'), (0x1b, 'e'), (0x22, '"'), (0x5c, '\\'), (0x85, 'N'), (0xa0, '_'), (0x2028, 'L'),
    (0x2029, 'P')].lookup c.toNat

/-- A number in at least so many hexadecimal digits, with capital letters. -/
def upperHex (width n : Nat) : List Char :=
  let ds := (Nat.toDigits 16 n).map Char.toUpper
  List.replicate (width - ds.length) '0' ++ ds

/-- How a character between double quotes is escaped, if it is. -/
def escape? (c : Char) : Option (List Char) :=
  if ' ' ≤ c ∧ c ≤ '~' ∧ c ≠ '"' ∧ c ≠ '\\' then none
  else match escapeLetter? c with
    | some l => some ['\\', l]
    | none =>
      let n := c.toNat
      some (if n ≤ 0xff then '\\' :: 'x' :: upperHex 2 n
        else if n ≤ 0xffff then '\\' :: 'u' :: upperHex 4 n
        else '\\' :: 'U' :: upperHex 8 n)

/-- Folds a line between double quotes. A blank that begins the next line is marked. -/
def foldLine (p : Page) (next : Option Char) : Page :=
  let p := (p.put ['\\']).indent
  if next = some ' ' then p.put ['\\'] else p

/-- Writes characters between double quotes. `pending` are the ones that are not yet on the line,
in reverse, and `index` is the place of the next among `length`. -/
def putEscaped (length : Nat) : (index : Nat) → (pending : List Char) → List Char → Page → Page
  | _, pending, [], p => p.put pending.reverse
  | index, pending, c :: cs, p =>
    let inside := 0 < index && index + 1 < length
    match escape? c with
    | some e =>
      let p := (p.put pending.reverse).put e
      let p := if inside && bestWidth + 1 < p.column then foldLine p cs.head? else p
      putEscaped length (index + 1) [] cs p
    | none =>
      if inside && (c == ' ' || pending.isEmpty) && bestWidth < p.column + pending.length then
        putEscaped length (index + 1) [c] cs (foldLine (p.put pending.reverse) (some c))
      else putEscaped length (index + 1) (c :: pending) cs p

def putText (s : String) (p : Page) : Page :=
  let cs := s.toList
  match Style.of s with
  | .plain => putRuns ['\''] true (runs cs) p
  | .single => (putRuns ['\'', '\''] true (runs cs) (p.put ['\''])).put ['\'']
  | .double => (putEscaped cs.length 0 [] cs (p.put ['"'])).put ['"']

/-- One entry of a map. -/
def entryText (key value : String) : String :=
  let p : Page := putText value (Page.put {} (key.toList ++ [':', ' ']))
  String.ofList p.newline.written.reverse

/-- A map of texts under keys that need no quotes. -/
def render (entries : List (String × String)) : String :=
  let sorted := entries.mergeSort fun a b => !decide (b.1 < a.1)
  String.join (sorted.map fun e => entryText e.1 e.2)

end FlowWarden.Document.Yaml
