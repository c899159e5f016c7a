import FlowWarden.Cluster.Failure
/-!
# What can go wrong in a cycle

The executions of a state cannot be listed, a controller fails, the clock fails, or two moments
cannot be compared.
-/

namespace FlowWarden.Reaper

/-- Why a part of a cycle failed. -/
inductive Failure
  /-- A collaborator failed and said why. -/
  | raised (text : String)
  /-- There is no collaborator for the task. -/
  | notImplemented
  | cluster (f : Cluster.Failure)
  /-- A moment lies outside the years that have dates. -/
  | outOfRange
  /-- A moment with an offset and one without were subtracted. -/
  | mixedSubtraction
  /-- A moment with an offset and one without were compared. -/
  | mixedComparison
  /-- The execution has no submit time to compare with. -/
  | noSubmitTime
deriving DecidableEq, Repr

def Failure.message : Failure → String
  | .raised text => text
  | .notImplemented => ""
  | .cluster f => f.message
  | .outOfRange => "date value out of range"
  | .mixedSubtraction => "can't subtract offset-naive and offset-aware datetimes"
  | .mixedComparison => "can't compare offset-naive and offset-aware datetimes"
  | .noSubmitTime => "'>' not supported between instances of 'NoneType' and 'datetime.datetime'"

end FlowWarden.Reaper
