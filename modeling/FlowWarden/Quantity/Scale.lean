import FlowWarden.Quantity.Basic
/-!
# Scaling quantities

An observed target is multiplied by the operator's headroom factor and rounded to whole
millicores or bytes, a half going away from zero. Each product keeps 28 digits. The factor is
taken by its decimal text, so that 1.1 means 1.1.
-/

namespace FlowWarden.Quantity

def millisPerCore : Nat := 1000

/-- The headroom factor: a finite decimal number that is not below zero. Its text is what counts, so
an integer is taken to be one that can be written. -/
def multiplier (m : Document) : Except Problem Decimal :=
  let read := match m with
    | .decimal d => some d
    | m => Decimal.read? m.display
  match read with
  | none => .error (.invalidMultiplier m.display)
  | some d =>
    if !d.isFinite then .error (.infiniteMultiplier m.display)
    else if d.isBelowZero then .error (.negativeMultiplier m.display)
    else .ok d

/-- A product, with a fault of the arithmetic as a failure. -/
def product (a b : Decimal) : Except Failure Decimal :=
  (a.mul b).mapError .arithmetic

/-- The nearest whole number. -/
def nearest (d : Decimal) : Except Failure Int :=
  match d.roundHalfUp with
  | .error fault => .error (.arithmetic fault)
  | .ok none => .error (.invalid .notANumber)
  | .ok (some n) => .ok n

/-- A quantity times a factor, in base units. -/
def scaleBase (raw factor : Document) : Except Failure Decimal := do
  let size ← (parse raw).mapError .invalid
  let m ← (multiplier factor).mapError .invalid
  product size m

/-- A processor quantity times a factor, in whole millicores. -/
def scaleCpu (raw factor : Document) : Except Failure Int := do
  let cores ← scaleBase raw factor
  let millis ← product cores (.ofInt millisPerCore)
  nearest millis

/-- A memory quantity times a factor, in whole bytes. -/
def scaleMemory (raw factor : Document) : Except Failure Int := do
  let bytes ← scaleBase raw factor
  nearest bytes

end FlowWarden.Quantity
