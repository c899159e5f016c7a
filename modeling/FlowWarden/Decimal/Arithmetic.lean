import FlowWarden.Decimal.Basic
/-!
# Arithmetic to 28 digits

Results keep 28 significant digits, a half going to the even neighbour, and an exponent range of
about a million either way. A result that is too large and an operation without an answer are
faults; one that is too small loses digits and ends as zero.

`roundHalfUp` turns a number into the nearest integer, a half going away from zero.
-/

namespace FlowWarden.Decimal

/-- Why an operation has no result. -/
inductive Fault
  /-- There is no number that could be the answer. -/
  | invalidOperation
  | overflow
deriving DecidableEq, Repr

/-- How many significant digits a result keeps. -/
def precision : Nat := 28

/-- The largest exponent of a leading digit. -/
def maxExponent : Int := 999999

/-- The smallest exponent of a last digit. -/
def tinyExponent : Int := -1000026

/-- Drops the last `k` digits of a number, a half going to the even neighbour. -/
def dropHalfEven (c k : Nat) : Nat :=
  if digits c < k then 0
  else
    let q := c / Nat.pow 10 k
    let twice := 2 * (c % Nat.pow 10 k)
    if Nat.pow 10 k < twice ∨ (twice = Nat.pow 10 k ∧ q % 2 = 1) then q + 1 else q

/-- Drops the last `k` digits of a number, a half going up. -/
def dropHalfUp (c k : Nat) : Nat :=
  if digits c < k then 0
  else
    let q := c / Nat.pow 10 k
    if Nat.pow 10 k ≤ 2 * (c % Nat.pow 10 k) then q + 1 else q

/-- The number `± c · 10 ^ e` with the digits and in the range that a result may have. -/
def fit (negative : Bool) (c : Nat) (e : Int) : Except Fault Decimal :=
  if c = 0 then .ok (.finite negative 0 (max tinyExponent (min maxExponent e)))
  else
    let k := max (digits c - precision) (tinyExponent - e).toNat
    let q := dropHalfEven c k
    let (q, e) := if precision < digits q then (q / 10, e + k + 1) else (q, e + k)
    if q ≠ 0 ∧ maxExponent < adjusted q e then .error .overflow
    else .ok (.finite negative q e)

/-- The payload of a non-number in a result: its last digits. -/
def fitPayload (payload : Nat) : Nat :=
  payload % Nat.pow 10 precision

def mul : Decimal → Decimal → Except Fault Decimal
  | .nan _ true _, _ => .error .invalidOperation
  | _, .nan _ true _ => .error .invalidOperation
  | .nan n false p, _ => .ok (.nan n false (fitPayload p))
  | _, .nan n false p => .ok (.nan n false (fitPayload p))
  | .infinite n, .infinite n' => .ok (.infinite (n != n'))
  | .infinite n, .finite n' c _ =>
    if c = 0 then .error .invalidOperation else .ok (.infinite (n != n'))
  | .finite n c _, .infinite n' =>
    if c = 0 then .error .invalidOperation else .ok (.infinite (n != n'))
  | .finite n c e, .finite n' c' e' => fit (n != n') (c * c') (e + e')

/-- The nearest integer to `c · 10 ^ e`, a half going up, if it has no more digits than a result
may have. -/
def nearestNat (c : Nat) (e : Int) : Option Nat :=
  if c = 0 then some 0
  else if 0 ≤ e then
    if precision < digits c + e.toNat then none else some (c * Nat.pow 10 e.toNat)
  else
    let q := dropHalfUp c (-e).toNat
    if precision < digits q then none else some q

/-- The nearest integer, a half going away from zero. `none` stands for a quiet non-number. -/
def roundHalfUp : Decimal → Except Fault (Option Int)
  | .nan _ true _ => .error .invalidOperation
  | .nan _ false _ => .ok none
  | .infinite _ => .error .invalidOperation
  | .finite negative c e =>
    match nearestNat c e with
    | none => .error .invalidOperation
    | some n => .ok (some (if negative then -(n : Int) else n))

end FlowWarden.Decimal
