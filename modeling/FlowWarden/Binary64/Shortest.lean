import FlowWarden.Binary64.Basic
/-!
# The shortest text of a float

`shortest` finds the decimal number with the fewest digits that reads back as a given float, and
of those with as few digits the one nearest to it. `text` writes it: positionally while the
point stands at most 16 digits to the right of the first digit and at most three zeros before
it, and with an exponent otherwise.
-/

namespace FlowWarden.Binary64

def digitCount (n : Nat) : Nat :=
  if n = 0 then 0 else (Nat.toDigits 10 n).length

/-- A positive rational number with the numbers around it that round to the same float. All
four have the denominator `den`. -/
structure Interval where
  low : Nat
  value : Nat
  high : Nat
  den : Nat
  /-- Whether the two ends belong to it. -/
  closed : Bool

/-- The numbers that round to `mantissa · 2 ^ exponent`: half-way to either neighbour, and the
ends belong to the even mantissa. Below a power of two the lower neighbour is twice as near. -/
def Interval.around (mantissa : Nat) (exponent : Int) : Interval :=
  let e := exponent - 2
  let up := if 0 ≤ e then Nat.pow 2 e.toNat else 1
  let den := if 0 ≤ e then 1 else Nat.pow 2 (-e).toNat
  let below := if mantissa = leadingBit ∧ minExponent < exponent then 1 else 2
  { low := (4 * mantissa - below) * up
    value := 4 * mantissa * up
    high := (4 * mantissa + 2) * up
    den
    closed := mantissa % 2 == 0 }

/-- The place of the point before the first digit: the value is `0.d₁d₂… · 10 ^ point`. -/
def Interval.point (i : Interval) : Int :=
  if i.den ≤ i.value then digitCount (i.value / i.den)
  else 1 - (digitCount ((i.den + i.value - 1) / i.value - 1) : Int)

/-- Whether `c · 10 ^ e` lies in the interval. -/
def Interval.holds (i : Interval) (c : Nat) (e : Int) : Bool :=
  let x := if 0 ≤ e then c * Nat.pow 10 e.toNat * i.den else c * i.den
  let s := if 0 ≤ e then 1 else Nat.pow 10 (-e).toNat
  if i.closed then i.low * s ≤ x && x ≤ i.high * s else i.low * s < x && x < i.high * s

/-- The point of the grid `10 ^ e` that lies in the interval and nearest to the value. Of two
that are equally near the even one is taken. -/
def Interval.onGrid (i : Interval) (e : Int) : Option Nat :=
  let num := if 0 ≤ e then i.value else i.value * Nat.pow 10 (-e).toNat
  let den := if 0 ≤ e then i.den * Nat.pow 10 e.toNat else i.den
  let c := num / den
  let twice := 2 * (num % den)
  let upper := if twice = den then c % 2 == 1 else den < twice
  match i.holds c e, i.holds (c + 1) e with
  | true, true => some (if upper then c + 1 else c)
  | true, false => some c
  | false, true => some (c + 1)
  | false, false => none

/-- The shortest decimal number `(digits, e)` that lies in the interval, as `digits · 10 ^ e`. -/
def Interval.shortest (i : Interval) : Nat × Int :=
  let grids := (List.range 17).map fun n => i.point - (n + 1 : Nat)
  (grids.findSome? fun e => (i.onGrid e).map fun c => (c, e)).getD (0, 0)

/-- Decimal digits without the zeros at their end. -/
def significantDigits (n : Nat) : List Char :=
  ((Nat.toDigits 10 n).reverse.dropWhile (· == '0')).reverse

/-- An exponent with its sign and at least two digits. -/
def exponentText (e : Int) : List Char :=
  let ds := Nat.toDigits 10 e.natAbs
  (if e < 0 then '-' else '+') :: (if ds.length < 2 then '0' :: ds else ds)

/-- The digits with the point or the exponent in its place. `point` counts from the first digit
to the point. -/
def placePoint (ds : List Char) (point : Int) : List Char :=
  if -3 ≤ point ∧ point ≤ 16 then
    if point ≤ 0 then '0' :: '.' :: List.replicate (-point).toNat '0' ++ ds
    else
      let whole := ds.take point.toNat
      let rest := ds.drop point.toNat
      whole ++ List.replicate (point.toNat - whole.length) '0' ++ '.' ::
        (if rest.isEmpty then ['0'] else rest)
  else
    let rest := ds.drop 1
    ds.take 1 ++ (if rest.isEmpty then [] else '.' :: rest) ++ 'e' :: exponentText (point - 1)

def magnitudeText (mantissa : Nat) (exponent : Int) : List Char :=
  let (c, e) := (Interval.around mantissa exponent).shortest
  placePoint (significantDigits c) (digitCount c + e)

def text (x : Float) : String :=
  match classify x with
  | .nan => "nan"
  | .infinite negative => if negative then "-inf" else "inf"
  | .finite negative m e =>
    let body := if m = 0 then ['0', '.', '0'] else magnitudeText m e
    String.ofList (if negative then '-' :: body else body)

end FlowWarden.Binary64
