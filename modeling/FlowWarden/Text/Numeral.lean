import FlowWarden.Text.Integer
/-!
# Written numbers

A float and a decimal number are written alike: plain digits with a point somewhere, and an exponent.
`readNumeral` takes such a text apart, without its sign and up to its end.
-/

namespace FlowWarden.Text

/-- The digits behind a point, if there is one, and what follows them. -/
def splitPoint (cs : List Char) : List Char × List Char :=
  match cs with
  | '.' :: rest => (rest.takeWhile Char.isDigit, rest.dropWhile Char.isDigit)
  | _ => ([], cs)

/-- The exponent part, from its letter on. No part at all stands for zero. -/
def readExponent : List Char → Option Int
  | [] => some 0
  | c :: cs =>
    if c = 'e' ∨ c = 'E' then
      let (negative, ds) := splitSign cs
      if ds.isEmpty || !ds.all Char.isDigit then none
      else some (if negative then -(digitsValue ds : Int) else digitsValue ds)
    else none

/-- The number `n · 10 ^ e` that a text writes, as the pair of `n` and `e`. -/
def readNumeral (cs : List Char) : Option (Nat × Int) := do
  let whole := cs.takeWhile Char.isDigit
  let (fraction, rest) := splitPoint (cs.dropWhile Char.isDigit)
  if whole.isEmpty && fraction.isEmpty then none
  else
    let e ← readExponent rest
    some (digitsValue (whole ++ fraction), e - fraction.length)

end FlowWarden.Text
