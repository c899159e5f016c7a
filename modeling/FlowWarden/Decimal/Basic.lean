import FlowWarden.Binary64.Basic
/-!
# Decimal numbers

A decimal number keeps its coefficient and its exponent apart, so `1.50` and `1.5` are different
values of the same size. There are two infinities, and numbers that are not one: a quiet one
passes through arithmetic, a signaling one stops it.
-/

namespace FlowWarden

/-- The number `± coefficient · 10 ^ exponent`, an infinity, or not a number. -/
inductive Decimal
  | finite (negative : Bool) (coefficient : Nat) (exponent : Int)
  | infinite (negative : Bool)
  | nan (negative signaling : Bool) (payload : Nat)
deriving DecidableEq, Repr, Inhabited

namespace Decimal

/-- How many decimal digits a number has. Zero has one. -/
def digits (n : Nat) : Nat :=
  (Nat.toDigits 10 n).length

def ofInt (n : Int) : Decimal :=
  .finite (decide (n < 0)) n.natAbs 0

/-- A float, exactly and with the smallest possible coefficient. -/
def ofFloat (x : Float) : Decimal :=
  match Binary64.classify x with
  | .nan => .nan false false 0
  | .infinite negative => .infinite negative
  | .finite negative m e =>
    if 0 ≤ e then .finite negative (m * Nat.pow 2 e.toNat) 0
    else
      let den := Nat.pow 2 (-e).toNat
      let common := m.gcd den
      let places := (den / common).log2
      .finite negative (m / common * Nat.pow 5 places) (-places)

/-- Neither infinite nor a non-number. -/
def isFinite : Decimal → Bool
  | .finite .. => true
  | _ => false

/-- The exponent of the leading digit of `coefficient · 10 ^ exponent`. -/
def adjusted (coefficient : Nat) (exponent : Int) : Int :=
  exponent + digits coefficient - 1

/-- Whether `c · 10 ^ e` is less than `c' · 10 ^ e'`. The leading digits decide before any power
of ten is computed. -/
def magnitudeLt (c : Nat) (e : Int) (c' : Nat) (e' : Int) : Bool :=
  if c = 0 then decide (c' ≠ 0)
  else if c' = 0 then false
  else if adjusted c e ≠ adjusted c' e' then decide (adjusted c e < adjusted c' e')
  else decide (c * Nat.pow 10 (e - e').toNat < c' * Nat.pow 10 (e' - e).toNat)

/-- The order of the numbers. It is not defined where one of them is not a number. -/
def lt? : Decimal → Decimal → Option Bool
  | .nan .., _ => none
  | _, .nan .. => none
  | .infinite n, .infinite n' => some (n && !n')
  | .infinite n, .finite .. => some n
  | .finite .., .infinite n' => some (!n')
  | .finite n c e, .finite n' c' e' =>
    some <| match n, n' with
      | false, false => magnitudeLt c e c' e'
      | true, true => magnitudeLt c' e' c e
      | true, false => decide (c ≠ 0 ∨ c' ≠ 0)
      | false, true => false

def isBelowZero : Decimal → Bool
  | .finite negative c _ => negative && decide (c ≠ 0)
  | .infinite negative => negative
  | .nan .. => false

end Decimal

end FlowWarden
