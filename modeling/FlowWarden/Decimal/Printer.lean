import FlowWarden.Decimal.Basic
/-!
# Writing decimal numbers

A number is written with every digit of its coefficient. The exponent is written too when the
last digit stands left of the point or the first one more than six places right of it.
-/

namespace FlowWarden.Decimal

/-- Digits with a point `places` digits before their end. -/
def withPoint (ds : List Char) (places : Nat) : List Char :=
  if places = 0 then ds
  else
    let ds := List.replicate (places + 1 - ds.length) '0' ++ ds
    ds.take (ds.length - places) ++ '.' :: ds.drop (ds.length - places)

/-- One digit before the point, the others behind it, and the exponent. -/
def scientific (ds : List Char) (exponent : Int) : List Char :=
  withPoint ds (ds.length - 1) ++ 'E' :: (if exponent < 0 then '-' else '+') ::
    Nat.toDigits 10 exponent.natAbs

def magnitudeText (coefficient : Nat) (exponent : Int) : List Char :=
  let ds := Nat.toDigits 10 coefficient
  if exponent ≤ 0 ∧ -6 ≤ adjusted coefficient exponent then withPoint ds (-exponent).toNat
  else scientific ds (adjusted coefficient exponent)

def text : Decimal → String
  | .finite negative c e =>
    String.ofList (if negative then '-' :: magnitudeText c e else magnitudeText c e)
  | .infinite negative => if negative then "-Infinity" else "Infinity"
  | .nan negative signaling payload =>
    (if negative then "-" else "") ++ (if signaling then "sNaN" else "NaN") ++
      (if payload = 0 then "" else toString payload)

end FlowWarden.Decimal
