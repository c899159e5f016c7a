/-!
# Floats as exact numbers

A float is zero, a nonzero dyadic number `± mantissa · 2 ^ exponent`, an infinity or not a
number. `classify` takes it apart and the other definitions compute on the parts in exact
integer arithmetic.
-/

namespace FlowWarden.Binary64

/-- What a float stands for. -/
inductive Parts
  | nan
  | infinite (negative : Bool)
  | finite (negative : Bool) (mantissa : Nat) (exponent : Int)
deriving DecidableEq, Repr

/-- The exponent of the smallest positive float. -/
def minExponent : Int := -1074

/-- The leading bit of a mantissa of full length. -/
def leadingBit : Nat := Nat.pow 2 52

/-- The number of exponent fields. The last is kept for infinities and what is not a number. -/
def fields : Nat := 2048

/-- Takes a float apart. -/
def classify (x : Float) : Parts :=
  let bits := x.toBits.toNat
  let negative := bits / (leadingBit * fields) == 1
  let field := bits / leadingBit % fields
  let fraction := bits % leadingBit
  if field = fields - 1 then if fraction = 0 then .infinite negative else .nan
  else if field = 0 then .finite negative fraction minExponent
  else .finite negative (leadingBit + fraction) (((field - 1 : Nat) : Int) + minExponent)

/-- The integer between zero and a finite float that is nearest to the float. -/
def truncate (negative : Bool) (mantissa : Nat) (exponent : Int) : Int :=
  let n : Nat :=
    if 0 ≤ exponent then mantissa * Nat.pow 2 exponent.toNat
    else mantissa / Nat.pow 2 (-exponent).toNat
  if negative then -n else n

/-- The float nearest to an integer, an infinity where the integer is too large. -/
def ofInt (n : Int) : Float :=
  let x := Float.ofScientific n.natAbs false 0
  if n < 0 then -x else x

/-- The float nearest to `n / 10 ^ places`. -/
def ofDecimal (n : Int) (places : Nat) : Float :=
  let x := Float.ofScientific n.natAbs true places
  if n < 0 then -x else x

/-- The float without a sign of its own that is larger than all others. -/
def infinity : Float := Float.ofBits 0x7ff0000000000000

def nan : Float := Float.ofBits 0x7ff8000000000000

end FlowWarden.Binary64
