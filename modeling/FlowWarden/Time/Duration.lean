import FlowWarden.Number
/-!
# Durations

A duration is a whole number of microseconds, at most 999999999 days either way.
`Duration.ofUnits` converts a count of minutes or hours: an integer exactly, a float to the
nearest microsecond.
-/

namespace FlowWarden

/-- A length of time in microseconds. -/
structure Duration where
  micros : Int
  lower : -999999999 * 86400000000 ≤ micros := by omega
  upper : micros < 1000000000 * 86400000000 := by omega
deriving DecidableEq, Repr

namespace Duration

/-- Why a count of units is not a duration. -/
inductive Fault
  /-- It is too long, or infinite. -/
  | outOfRange
  /-- It is not a number. -/
  | notANumber
deriving DecidableEq, Repr

def second : Nat := 1000000

def minute : Nat := 60 * second

def hour : Nat := 60 * minute

/-- So many microseconds, if they are a duration. -/
def ofMicros (n : Int) : Except Fault Duration :=
  if h : -999999999 * 86400000000 ≤ n ∧ n < 1000000000 * 86400000000 then .ok ⟨n, h.1, h.2⟩
  else .error .outOfRange

/-- The integer nearest to `n / d`, a half going to the even one. -/
def divHalfEven (n : Int) (d : Nat) : Int :=
  let q := n / d
  let twice := 2 * (n % d)
  if (d : Int) < twice ∨ (twice = d ∧ q % 2 = 1) then q + 1 else q

/-- The integer nearest to `n + x`, a half going to the even one. A float that is not finite
counts as zero. -/
def addHalfEven (n : Int) (x : Float) : Int :=
  match Binary64.classify x with
  | .finite negative m e =>
    let m : Int := if negative then -m else m
    if 0 ≤ e then n + m * Nat.pow 2 e.toNat
    else divHalfEven (n * Nat.pow 2 (-e).toNat + m) (Nat.pow 2 (-e).toNat)
  | _ => n

/-- `count` units of `unit` microseconds each. Of a float the whole part is converted exactly and
the fraction by a product of floats. -/
def ofUnits (unit : Nat) : Number → Except Fault Duration
  | .int n => ofMicros (n * unit)
  | .float x =>
    match Binary64.classify x with
    | .nan => .error .notANumber
    | .infinite _ => .error .outOfRange
    | .finite negative m e =>
      let whole := Binary64.truncate negative m e
      let fraction := x - Binary64.ofInt whole
      ofMicros (addHalfEven (whole * unit) (Binary64.ofInt unit * fraction))

/-- The duration in seconds, as the nearest float. -/
def seconds (d : Duration) : Float :=
  Binary64.ofDecimal d.micros 6

/-- The duration in minutes, as a float. -/
def minutes (d : Duration) : Float :=
  d.seconds / 60

/-- Shorter than no time at all. -/
def isNegative (d : Duration) : Bool :=
  decide (d.micros < 0)

end Duration

end FlowWarden
