import FlowWarden.Binary64.Reader
import FlowWarden.Document.Basic
/-!
# Reading JSON

`read?` reads one JSON document. A number with a point or an exponent is a float, any other an
integer, which may not have more digits than can be written. Of two members with one name the later
value counts, at the place of the first.
-/

namespace FlowWarden.Document.Json

open Text

/-- Blanks between the parts of a document. -/
def isSpace (c : Char) : Bool :=
  c == ' ' || c == '\n' || c == '\t' || c == '\r'

def hexValue? (c : Char) : Option Nat :=
  if c.isDigit then some (c.toNat - '0'.toNat)
  else if 'a' ≤ c ∧ c ≤ 'f' then some (c.toNat - 'a'.toNat + 10)
  else if 'A' ≤ c ∧ c ≤ 'F' then some (c.toNat - 'A'.toNat + 10)
  else none

/-- Four hexadecimal digits and what follows. -/
def readUnit : List Char → Option (Nat × List Char)
  | a :: b :: c :: d :: cs => do
    let n := ((← hexValue? a) * 16 + (← hexValue? b)) * 256 +
      ((← hexValue? c) * 16 + (← hexValue? d))
    some (n, cs)
  | _ => none

/-- A character after `\u`, of one unit or of a pair. -/
def readEscapedUnits (cs : List Char) : Option (Char × List Char) := do
  let (n, cs) ← readUnit cs
  if 0xd800 ≤ n ∧ n < 0xdc00 then
    match cs with
    | '\\' :: 'u' :: rest =>
      let (m, rest) ← readUnit rest
      if 0xdc00 ≤ m ∧ m < 0xe000 then
        some (Char.ofNat (0x10000 + (n - 0xd800) * 0x400 + (m - 0xdc00)), rest)
      else some (Char.ofNat 0xfffd, cs)
    | _ => some (Char.ofNat 0xfffd, cs)
  else some (Char.ofNat n, cs)

/-- The characters up to the closing quote, in reverse before `read`, and what follows. -/
def readQuoted : Nat → List Char → List Char → Option (String × List Char)
  | 0, _, _ => none
  | fuel + 1, read, cs =>
    match cs with
    | [] => none
    | '"' :: cs => some (String.ofList read.reverse, cs)
    | '\\' :: 'u' :: cs => do
      let (c, cs) ← readEscapedUnits cs
      readQuoted fuel (c :: read) cs
    | '\\' :: c :: cs =>
      match c with
      | 'n' => readQuoted fuel ('\n' :: read) cs
      | 't' => readQuoted fuel ('\t' :: read) cs
      | 'r' => readQuoted fuel ('\r' :: read) cs
      | 'b' => readQuoted fuel (Char.ofNat 8 :: read) cs
      | 'f' => readQuoted fuel (Char.ofNat 12 :: read) cs
      | _ => readQuoted fuel (c :: read) cs
    | c :: cs => readQuoted fuel (c :: read) cs

def readNumber (cs : List Char) : Option (Document × List Char) :=
  let isPart := fun c : Char => c.isDigit || "-+.eE".contains c
  let part := cs.takeWhile isPart
  let rest := cs.dropWhile isPart
  if part.any fun c => c == '.' || c == 'e' || c == 'E' then
    let (negative, part) := splitSign part
    (Binary64.readDigits negative part).map fun x => (.float x, rest)
  else
    let (negative, ds) := splitSign part
    if ds.isEmpty || !ds.all Char.isDigit || maxIntegerDigits < ds.length then none
    else
      let n : Int := digitsValue ds
      some (.int (if negative then -n else n), rest)

mutual

/-- A document and what follows. `fuel` bounds the number of characters that are looked at. -/
def readValue : Nat → List Char → Option (Document × List Char)
  | 0, _ => none
  | fuel + 1, cs =>
    match cs.dropWhile isSpace with
    | '"' :: cs => (readQuoted fuel [] cs).map fun (s, cs) => (.text s, cs)
    | '[' :: cs =>
      match cs.dropWhile isSpace with
      | ']' :: cs => some (.list [], cs)
      | cs => (readItems fuel cs).map fun (items, cs) => (.list items, cs)
    | '{' :: cs =>
      match cs.dropWhile isSpace with
      | '}' :: cs => some (.map [], cs)
      | cs => (readMembers fuel [] cs).map fun (entries, cs) => (.map entries, cs)
    | 't' :: 'r' :: 'u' :: 'e' :: cs => some (.bool true, cs)
    | 'f' :: 'a' :: 'l' :: 's' :: 'e' :: cs => some (.bool false, cs)
    | 'n' :: 'u' :: 'l' :: 'l' :: cs => some (.null, cs)
    | cs => readNumber cs

/-- The items of a list up to its closing bracket. -/
def readItems : Nat → List Char → Option (List Document × List Char)
  | 0, _ => none
  | fuel + 1, cs => do
    let (d, cs) ← readValue fuel cs
    match cs.dropWhile isSpace with
    | ',' :: cs => do
      let (ds, cs) ← readItems fuel cs
      some (d :: ds, cs)
    | ']' :: cs => some ([d], cs)
    | _ => none

/-- The members of a map up to its closing brace, added to those before. -/
def readMembers : Nat → List (Document × Document) → List Char →
    Option (List (Document × Document) × List Char)
  | 0, _, _ => none
  | fuel + 1, entries, cs =>
    match cs.dropWhile isSpace with
    | '"' :: cs => do
      let (key, cs) ← readQuoted fuel [] cs
      match cs.dropWhile isSpace with
      | ':' :: cs => do
        let (value, cs) ← readValue fuel cs
        let entries := setField key value entries
        match cs.dropWhile isSpace with
        | ',' :: cs => readMembers fuel entries cs
        | '}' :: cs => some (entries, cs)
        | _ => none
      | _ => none
    | _ => none

end

def read? (s : String) : Option Document :=
  let cs := s.toList
  match readValue (cs.length + 1) cs with
  | some (d, rest) => if rest.all isSpace then some d else none
  | none => none

end FlowWarden.Document.Json
