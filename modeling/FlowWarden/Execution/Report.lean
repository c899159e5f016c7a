import FlowWarden.Execution.Basic
import FlowWarden.Keyed
/-!
# What a reap cycle reports

Each stale execution gets a remediation of three steps. `CycleReport` collects what a cycle
looked at and did.
-/

namespace FlowWarden

inductive RemediationStep
  | cancel
  | restart
  | deleteContainer
deriving DecidableEq, Repr

namespace RemediationStep

/-- Every step, in the order in which they are taken. -/
def all : List RemediationStep :=
  [cancel, restart, deleteContainer]

def name : RemediationStep → String
  | cancel => "cancel"
  | restart => "restart"
  | deleteContainer => "delete_container"

def ofName? (s : String) : Option RemediationStep :=
  all.find? fun step => step.name == s

end RemediationStep

inductive StepOutcome
  | success
  | skipped
  | failed
deriving DecidableEq, Repr

namespace StepOutcome

def all : List StepOutcome :=
  [success, skipped, failed]

def name : StepOutcome → String
  | success => "success"
  | skipped => "skipped"
  | failed => "failed"

def ofName? (s : String) : Option StepOutcome :=
  all.find? fun outcome => outcome.name == s

end StepOutcome

/-- A step, how it ended, and why if it did not succeed. -/
structure StepResult where
  step : RemediationStep
  outcome : StepOutcome
  error : Option String := none
deriving DecidableEq, Repr

def StepResult.toDocument (r : StepResult) : Document :=
  .record [("step", .text r.step.name), ("outcome", .text r.outcome.name),
    ("error", Document.ofText? r.error)]

/-- What was done about one execution. -/
structure Remediation where
  id : Int
  statusBefore : Status
  steps : List StepResult
deriving DecidableEq, Repr

namespace Remediation

/-- A remediation of which no step was taken. -/
def notAttempted (id : Int) (status : Status) (reason : String) : Remediation :=
  ⟨id, status, RemediationStep.all.map fun step => ⟨step, .skipped, some reason⟩⟩

def attempted (r : Remediation) : Bool :=
  r.steps.any fun s => s.outcome != .skipped

def succeeded (r : Remediation) : Bool :=
  r.steps.all fun s => s.outcome == .success

/-- How the first entry of a step ended. -/
def outcomeOf (r : Remediation) (step : RemediationStep) : Option StepOutcome :=
  (r.steps.find? fun s => s.step == step).map StepResult.outcome

def toDocument (r : Remediation) : Document :=
  .record [("execution_id", .int r.id), ("original_status", .text r.statusBefore.name),
    ("steps", .list (r.steps.map StepResult.toDocument))]

end Remediation

/-- What one cycle looked at and did. -/
structure CycleReport where
  startedAt : Moment
  finishedAt : Option Moment := none
  scanned : List Status := []
  /-- Why the executions of a state could not be listed. -/
  queryErrors : List (Status × String) := []
  skipped : List Int := []
  /-- Why it could not be decided whether an execution is stale. -/
  eligibilityErrors : List (Int × String) := []
  remediations : List Remediation := []
  cancelled : Bool := false
deriving DecidableEq, Repr

namespace CycleReport

/-- Notes that a state is looked at. -/
def scan (r : CycleReport) (status : Status) : CycleReport :=
  { r with scanned := r.scanned ++ [status] }

/-- Notes that the executions of a state could not be listed. -/
def queryFailed (r : CycleReport) (status : Status) (why : String) : CycleReport :=
  { r with queryErrors := Keyed.insert status why r.queryErrors }

/-- Notes that an execution was left alone. -/
def skip (r : CycleReport) (id : Int) : CycleReport :=
  { r with skipped := r.skipped ++ [id] }

/-- Notes that it could not be decided whether an execution is stale. -/
def undecided (r : CycleReport) (id : Int) (why : String) : CycleReport :=
  { r with eligibilityErrors := Keyed.insert id why r.eligibilityErrors }

def remediated (r : CycleReport) (rs : List Remediation) : CycleReport :=
  { r with remediations := r.remediations ++ rs }

def cutShort (r : CycleReport) : CycleReport :=
  { r with cancelled := true }

/-- The first remediation of an execution. -/
def remediationFor (r : CycleReport) (id : Int) : Option Remediation :=
  r.remediations.find? fun m => m.id == id

def toDocument (r : CycleReport) : Document :=
  .record [
    ("started_at", .text r.startedAt.text),
    ("finished_at", Document.ofText? (r.finishedAt.map Moment.text)),
    ("scanned_statuses", .list (r.scanned.map fun s => .text s.name)),
    ("query_errors", .record (r.queryErrors.map fun e => (e.1.name, .text e.2))),
    ("skipped_executions", .list (r.skipped.map .int)),
    ("eligibility_errors", .map (r.eligibilityErrors.map fun e => (.int e.1, .text e.2))),
    ("remediations", .list (r.remediations.map Remediation.toDocument)),
    ("cancelled", .bool r.cancelled)]

end CycleReport

end FlowWarden
