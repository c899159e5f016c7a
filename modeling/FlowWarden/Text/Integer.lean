import FlowWarden.Text.Blank
import FlowWarden.Text.Digit
/-!
# Written integers

`readInteger` accepts an optional sign and decimal digits of any script, with blanks around and
single underscores between the digits. More than `maxIntegerDigits` digits are refused, and an
integer with more digits cannot be written either.
-/

namespace FlowWarden.Text

/-- The most digits that a written integer may have. -/
def maxIntegerDigits : Nat := 4300

/-- Whether an integer has few enough digits to be written. -/
def isWritable (n : Int) : Bool :=
  decide (n.natAbs < Nat.pow 10 maxIntegerDigits)

/-- A blank that may stand beside a written number: any but the separators U+001C to U+001F. -/
def isPadding (c : Char) : Bool :=
  isBlank c && !(0x1c ≤ c.toNat && c.toNat ≤ 0x1f)

/-- A list of characters without the padding at its ends. -/
def dropPadding (cs : List Char) : List Char :=
  ((cs.dropWhile isPadding).reverse.dropWhile isPadding).reverse

/-- The values of the digits, each underscore standing between two of them. `afterDigit` tells
whether a digit comes just before. -/
def groupedDigits (afterDigit : Bool) : List Char → Option (List Nat)
  | [] => if afterDigit then some [] else none
  | c :: cs =>
    if c = '_' then if afterDigit then groupedDigits false cs else none
    else match decimalDigit? c with
      | some d => (groupedDigits true cs).map (d :: ·)
      | none => none

/-- The number with the given digits, the most significant first. -/
def ofDigits (base : Nat) (ds : List Nat) : Nat :=
  ds.foldl (fun n d => base * n + d) 0

theorem ofDigits_snoc (base : Nat) (ds : List Nat) (d : Nat) :
    ofDigits base (ds ++ [d]) = base * ofDigits base ds + d := by
  simp [ofDigits]

def digitValue (c : Char) : Nat := c.toNat - '0'.toNat

/-- The number that plain decimal digits write. -/
def digitsValue (cs : List Char) : Nat :=
  ofDigits 10 (cs.map digitValue)

/-- A sign and what follows it. `true` stands for a minus. -/
def splitSign : List Char → Bool × List Char
  | '-' :: cs => (true, cs)
  | '+' :: cs => (false, cs)
  | cs => (false, cs)

/-- The number of digits of the integer that a text writes, however many they are. -/
def integerWidth? (s : String) : Option Nat :=
  (groupedDigits false (splitSign (dropPadding s.toList)).2).map List.length

/-- The integer that a text writes, if it does. -/
def readInteger (s : String) : Option Int :=
  let (negative, cs) := splitSign (dropPadding s.toList)
  match groupedDigits false cs with
  | none => none
  | some ds =>
    if maxIntegerDigits < ds.length then none
    else
      let n : Int := ofDigits 10 ds
      some (if negative then -n else n)

/-- The letter that may follow a zero in front of a number of the given base. -/
def baseLetter? : Nat → Option Char
  | 2 => some 'b'
  | 8 => some 'o'
  | 16 => some 'x'
  | _ => none

/-- The digits of a number without the zero and the letter that say its base. -/
def dropBaseMark (base : Nat) : List Char → List Char
  | '0' :: c :: cs => if baseLetter? base = some c.toLower then cs else '0' :: c :: cs
  | cs => cs

/-- The value of a digit, a letter standing for ten and more. -/
def letterDigit? (c : Char) : Option Nat :=
  match decimalDigit? c with
  | some d => some d
  | none =>
    let l := c.toLower
    if 'a' ≤ l ∧ l ≤ 'z' then some (l.toNat - 'a'.toNat + 10) else none

/-- The integer that a text writes in a base from 2 to 36, without underscores. -/
def readIntegerIn (base : Nat) (s : String) : Option Int := do
  let (negative, cs) := splitSign (dropPadding s.toList)
  let ds ← (dropBaseMark base cs).mapM letterDigit?
  if ds.isEmpty || ds.any (base ≤ ·) then none
  else
    let n : Int := ofDigits base ds
    some (if negative then -n else n)

end FlowWarden.Text
