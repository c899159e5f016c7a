import FlowWarden.Decimal.Arithmetic
import FlowWarden.Decimal.Reader
import FlowWarden.Document.Literal
/-!
# Resource quantities

An amount of processor or memory is written as a number and perhaps a suffix: `500m`, `1Gi`, `2`.
`parse` gives its size in base units, cores or bytes. A suffix of one letter stands for a power
of 1000, one that ends in `i` for a power of 1024.
-/

namespace FlowWarden.Quantity

open Text

/-- What is wrong with a quantity or with the factor it is scaled by. -/
inductive Problem
  | empty
  | invalidNumber (number : String)
  | unknownSuffix (quantity : String)
  | outOfRange (quantity : String)
  | invalidMultiplier (multiplier : String)
  | infiniteMultiplier (multiplier : String)
  | negativeMultiplier (multiplier : String)
  | notANumber
deriving DecidableEq, Repr

def Problem.message : Problem → String
  | .empty => "empty quantity"
  | .invalidNumber number => "Invalid number format: " ++ number
  | .unknownSuffix quantity => quantity ++ " has unknown suffix"
  | .outOfRange quantity => "Invalid quantity: " ++ quantity
  | .invalidMultiplier m => "invalid multiplier: " ++ m
  | .infiniteMultiplier m => "multiplier must be finite: " ++ m
  | .negativeMultiplier m => "multiplier must not be negative: " ++ m
  | .notANumber => "cannot convert NaN to integer"

/-- Why a quantity could not be used: it is wrong, or the arithmetic on it has no result. -/
inductive Failure
  | invalid (problem : Problem)
  | arithmetic (fault : Decimal.Fault)
deriving DecidableEq, Repr

def kilo (n : Nat) : Nat := Nat.pow 1000 n

def kibi (n : Nat) : Nat := Nat.pow 1024 n

/-- The power of 1000 that a letter stands for. -/
def decimalFactor? : Char → Option Decimal
  | 'n' => some (.finite false 1 (-9))
  | 'u' => some (.finite false 1 (-6))
  | 'm' => some (.finite false 1 (-3))
  | 'k' | 'K' => some (.ofInt (kilo 1))
  | 'M' => some (.ofInt (kilo 2))
  | 'G' => some (.ofInt (kilo 3))
  | 'T' => some (.ofInt (kilo 4))
  | 'P' => some (.ofInt (kilo 5))
  | 'E' => some (.ofInt (kilo 6))
  | _ => none

/-- The power of 1024 that a letter stands for before an `i`. -/
def binaryFactor? : Char → Option Decimal
  | 'K' => some (.ofInt (kibi 1))
  | 'M' => some (.ofInt (kibi 2))
  | 'G' => some (.ofInt (kibi 3))
  | 'T' => some (.ofInt (kibi 4))
  | 'P' => some (.ofInt (kibi 5))
  | 'E' => some (.ofInt (kibi 6))
  | _ => none

/-- Whether a letter can be the first of a suffix. -/
def isSuffixLetter (c : Char) : Bool :=
  (decimalFactor? c).isSome

/-- What stands behind the number of a quantity. -/
inductive Suffix
  | none
  | decimal (letter : Char)
  | binary (letter : Char)
deriving DecidableEq, Repr

/-- The number of a quantity and its suffix. -/
def splitSuffix (cs : List Char) : List Char × Suffix :=
  match cs.reverse with
  | 'i' :: c :: rest => if isSuffixLetter c then (rest.reverse, .binary c) else (cs, .none)
  | c :: rest => if isSuffixLetter c then (rest.reverse, .decimal c) else (cs, .none)
  | [] => (cs, .none)

/-- A number times the factor of a suffix. -/
def scaled (quantity : String) (d : Decimal) (factor : Option Decimal) : Except Problem Decimal :=
  match factor with
  | none => .error (.unknownSuffix quantity)
  | some f =>
    match d.mul f with
    | .ok d => .ok d
    | .error _ => .error (.outOfRange quantity)

/-- The size of a written quantity. Without a suffix the number is kept as it is written. -/
def parseText (quantity : String) : Except Problem Decimal :=
  let (number, suffix) := splitSuffix quantity.toList
  match Decimal.read? (String.ofList number) with
  | none => .error (.invalidNumber (String.ofList number))
  | some d =>
    match suffix with
    | .none => .ok d
    | .decimal c => scaled quantity d (decimalFactor? c)
    | .binary c => scaled quantity d (binaryFactor? c)

/-- The size of a quantity. A number stands for itself, and what is neither a number nor a text
is read as the text that shows it. -/
def parse : Document → Except Problem Decimal
  | .text s => if isBlankText s then .error .empty else parseText (trim s)
  | .bool b => .ok (.ofInt (if b then 1 else 0))
  | .int n => .ok (.ofInt n)
  | .float x => .ok (.ofFloat x)
  | .decimal d => .ok d
  | d => parseText d.display

end FlowWarden.Quantity
