import FlowWarden.Binary64.Basic
import FlowWarden.Text.Numeral
/-!
# Reading floats

`ofScaled` is the float nearest to a decimal number. `read?` reads a float as an operator writes
one: digits of any script with a point and an exponent, single underscores between digits, blanks
around, or one of the words `inf`, `infinity` and `nan`.
-/

namespace FlowWarden.Binary64

open Text

/-- The float nearest to `± n · 10 ^ e`. Numbers far out of range are settled before any power of
ten is computed. -/
def ofScaled (negative : Bool) (n : Nat) (e : Int) : Float :=
  let leading := e + (Nat.toDigits 10 n).length
  let x :=
    if n = 0 ∨ leading < -400 then 0
    else if 400 < leading then infinity
    else if 0 ≤ e then Float.ofScientific n false e.toNat
    else Float.ofScientific n true (-e).toNat
  if negative then -x else x

/-- Whether each underscore stands between two digits. `before` is the character just before. -/
def wellGrouped (before : Char) : List Char → Bool
  | [] => before != '_'
  | c :: cs =>
    (if c = '_' then before.isDigit else before != '_' || c.isDigit) && wellGrouped c cs

/-- One character of a written float in plain form: digits of any script become plain ones. -/
def plainChar (c : Char) : Char :=
  if c.toNat < 0x80 then c else ((decimalDigit? c).map Nat.digitChar).getD '?'

/-- The float that digits with a point and an exponent part write, up to the end of the text. -/
def readDigits (negative : Bool) (cs : List Char) : Option Float :=
  (readNumeral cs).map fun (n, e) => ofScaled negative n e

/-- The float that a text writes, if it does. -/
def read? (s : String) : Option Float :=
  let cs := (dropPadding s.toList).map plainChar
  if !wellGrouped ' ' cs then none
  else
    let (negative, cs) := splitSign (cs.filter (· ≠ '_'))
    match String.ofList (cs.map Char.toLower) with
    | "inf" | "infinity" => some (if negative then -infinity else infinity)
    | "nan" => some nan
    | _ => readDigits negative cs

end FlowWarden.Binary64
