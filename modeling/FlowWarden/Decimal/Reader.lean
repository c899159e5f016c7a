import FlowWarden.Decimal.Basic
import FlowWarden.Text.Numeral
/-!
# Reading decimal numbers

A decimal number is a sign, digits with a point somewhere, and an exponent, or one of the words
`inf`, `infinity`, `nan` and `snan` in any case, the last two with a payload. Blanks around it
and underscores anywhere are skipped, and the digits of any script count. The number is taken
exactly; only an exponent beyond about 10 ^ 18 is refused.
-/

namespace FlowWarden.Decimal

open Text

/-- One character of a written number in its plain form. `none` if no number may hold it. -/
def plainChar (c : Char) : Option Char :=
  if c.toNat < 0x80 then if c.toNat = 0 then none else some c
  else (decimalDigit? c).map Nat.digitChar

/-- A written number without the blanks around it and without underscores, in plain digits. -/
def plainText (cs : List Char) : Option (List Char) :=
  ((trimChars cs).filter (· ≠ '_')).mapM plainChar

/-- The largest exponent of a leading digit that can be held. -/
def maxHeldExponent : Int := 999999999999999999

/-- The smallest exponent of a last digit that can be held. -/
def minHeldExponent : Int := -1999999999999999997

/-- Digits with a point somewhere, then the exponent part. -/
def readFinite (negative : Bool) (cs : List Char) : Option Decimal := do
  let (coefficient, exponent) ← readNumeral cs
  if exponent < minHeldExponent ∨ maxHeldExponent < adjusted coefficient exponent then none
  else some (.finite negative coefficient exponent)

/-- A non-number from the digits of its payload. -/
def readPayload (negative signaling : Bool) (cs : List Char) : Option Decimal :=
  if cs.all Char.isDigit then some (.nan negative signaling (digitsValue cs)) else none

/-- A number without its sign. -/
def readUnsigned (negative : Bool) (cs : List Char) : Option Decimal :=
  match cs.map Char.toLower with
  | 'n' :: 'a' :: 'n' :: _ => readPayload negative false (cs.drop 3)
  | 's' :: 'n' :: 'a' :: 'n' :: _ => readPayload negative true (cs.drop 4)
  | ['i', 'n', 'f'] | ['i', 'n', 'f', 'i', 'n', 'i', 't', 'y'] => some (.infinite negative)
  | _ => readFinite negative cs

def read? (s : String) : Option Decimal := do
  let cs ← plainText s.toList
  let (negative, cs) := splitSign cs
  readUnsigned negative cs

end FlowWarden.Decimal
