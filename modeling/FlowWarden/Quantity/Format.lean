import FlowWarden.Quantity.Scale
/-!
# Writing quantities

Millicores are written as whole cores where they are, and with the suffix `m` otherwise. Bytes
are written with the largest binary suffix whose factor divides them.
-/

namespace FlowWarden.Quantity

def formatCpu (millicores : Int) : String :=
  if millicores % millisPerCore = 0 then toString (millicores / millisPerCore)
  else toString millicores ++ "m"

/-- The binary suffixes with their factors, the largest first. -/
def binarySuffixes : List (String × Nat) :=
  [("Ei", kibi 6), ("Pi", kibi 5), ("Ti", kibi 4), ("Gi", kibi 3), ("Mi", kibi 2), ("Ki", kibi 1)]

def formatMemory (bytes : Int) : String :=
  if bytes = 0 then "0"
  else match binarySuffixes.find? fun s => bytes % s.2 == 0 with
    | some (suffix, factor) => toString (bytes / factor) ++ suffix
    | none => toString bytes

end FlowWarden.Quantity
