import FlowWarden.Execution.Basic
import FlowWarden.Execution.Staleness
import FlowWarden.Reaper.Failure
/-!
# Whether an execution is stale

`verdict` decides about one execution at one moment. An execution is fresh while the moment that
its rule counts from is known and lies less than the window back. A stale one that is being
prepared is spared while somebody debugs its pod and it was submitted within the grace time.
-/

namespace FlowWarden.Reaper

/-- The decision about an execution. -/
inductive Verdict
  | fresh
  | debugged
  | stale
deriving DecidableEq, Repr

/-- Whether the window of a rule has not passed yet. -/
def withinWindow (now : Moment) (rule : StalenessRule) (e : Execution) : Except Failure Bool :=
  match e.timestamp rule.field with
  | none => .ok false
  | some reference =>
    match now.sub? reference with
    | none => .error .mixedSubtraction
    | some age => .ok (decide (age < rule.maxAge.micros))

/-- Whether an execution was submitted within the grace time. -/
def withinGrace (now : Moment) (grace : Duration) (e : Execution) : Except Failure Bool :=
  match now.shift? (-grace.micros) with
  | none => .error .outOfRange
  | some start =>
    match e.submitTime with
    | none => .error .noSubmitTime
    | some submitted =>
      if Moment.comparable submitted start then .ok (decide (start.instant < submitted.instant))
      else .error .mixedComparison

/-- Decides about an execution that was listed under a state. -/
def verdict (now : Moment) (status : Status) (rule : StalenessRule) (grace : Duration)
    (e : Execution) : Except Failure Verdict :=
  match withinWindow now rule e with
  | .error f => .error f
  | .ok true => .ok .fresh
  | .ok false =>
    if status = .preparing ∧ e.isDevPod = true then
      (withinGrace now grace e).map fun spared => if spared then .debugged else .stale
    else .ok .stale

end FlowWarden.Reaper
