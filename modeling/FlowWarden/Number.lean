import FlowWarden.Binary64.Shortest
/-!
# Numbers as they were given

A setting may be given as an integer of any size or as a float, and messages show it in the kind
in which it came. `Number` keeps the kind.
-/

namespace FlowWarden

inductive Number
  | int (n : Int)
  | float (x : Float)
deriving DecidableEq

namespace Number

/-- A number as messages show it: a float has a point or an exponent, an integer has neither. -/
def text : Number → String
  | .int n => toString n
  | .float x => Binary64.text x

/-- The float nearest to a number. -/
def toFloat : Number → Float
  | .int n => Binary64.ofInt n
  | .float x => x

/-- A whole multiple of a number, of the same kind. -/
def scale (k : Int) : Number → Number
  | .int n => .int (n * k)
  | .float x => .float (x * Binary64.ofInt k)

def isPositive : Number → Bool
  | .int n => decide (0 < n)
  | .float x => decide (0 < x)

/-- A number moved by an integer, of the same kind. -/
def shift (k : Int) : Number → Number
  | .int n => .int (n + k)
  | .float x => .float (x + Binary64.ofInt k)

end Number

end FlowWarden
