import FlowWarden.Reaper.Eligibility
import FlowWarden.Reaper.World
/-!
# A reap cycle

`World.reapCycle` goes through the monitored states in table order. It lists the executions of a
state, decides about each, and remediates the stale ones in three steps, none of which depends on
the others. When somebody cancels the cycle it ends before the next execution or state, and the
executions that were already listed are reported as not attempted. Only the first and the last
reading of the clock can make a cycle fail.
-/

namespace FlowWarden.Reaper

namespace World

/-- Why the rest of a list is not attempted. -/
def cancelledReason : String := "cleanup cycle cancelled"

/-- The result of a step, with a failure in words and in the log. -/
def conclude (w : World) (step : RemediationStep) (what : String) :
    Except Failure Unit → StepResult × World
  | .ok () => (⟨step, .success, none⟩, w)
  | .error f => (⟨step, .failed, some f.message⟩, w.say Log.error ("❌ Error " ++ what ++ f.message))

/-- The first step: the execution is cancelled. -/
def cancelStep (w : World) (l : Listed) (prior : Status) : StepResult × World :=
  let id := toString l.execution.id
  let w := w.say Log.info ("Cleaning up stale flow " ++ id ++ " in state " ++ prior.name)
  let (result, w) := w.cancel l
  w.conclude .cancel ("cancelling flow " ++ id ++ " during clean up: ") result

/-- The second step: the execution is handed back for restart. -/
def restartStep (w : World) (l : Listed) (prior : Status) : StepResult × World :=
  let id := toString l.execution.id
  let w := w.say Log.info ("Restarting cleaned up flow " ++ id)
  let (result, w) := w.restart l prior
  w.conclude .restart ("restarting flow " ++ id ++ " during clean up: ") result

/-- The third step: the container of the execution is deleted. -/
def deleteStep (w : World) (l : Listed) : StepResult × World :=
  let (result, w) := w.delete l.execution.id
  w.conclude .deleteContainer
    ("deleting container for execution " ++ toString l.execution.id ++ ": ") result

/-- Takes the three steps for an execution, whatever becomes of each. Whether it is restarted
hangs on its state before it was cancelled. -/
def remediate (w : World) (l : Listed) : Remediation × World :=
  let prior := l.execution.status
  let (cancel, w) := w.cancelStep l prior
  let (restart, w) := w.restartStep l prior
  let (delete, w) := w.deleteStep l
  (⟨l.execution.id, prior, [cancel, restart, delete]⟩, w)

/-- Decides about an execution at the current moment. -/
def check (w : World) (status : Status) (rule : StalenessRule) (l : Listed) :
    Except Failure Verdict × World :=
  match w.readClock with
  | (.error f, w) => (.error f, w)
  | (.ok now, w) =>
    match verdict now status rule w.devPodGrace l.execution with
    | .ok .debugged =>
      (.ok .debugged, w.say Log.info ("Skipping dev pod execution " ++ toString l.execution.id))
    | result => (result, w)

def reapOne (status : Status) (rule : StalenessRule) (l : Listed) (r : CycleReport) (w : World) :
    CycleReport × World :=
  match w.check status rule l with
  | (.error f, w) =>
    let id := l.execution.id
    ((r.undecided id f.message).skip id, w.say Log.error
      ("❌ Error checking staleness of execution " ++ toString id ++ ": " ++ f.message))
  | (.ok .stale, w) =>
    let (m, w) := w.remediate l
    (r.remediated [m], w)
  | (.ok _, w) => (r.skip l.execution.id, w)

/-- The remediation of an execution that the cycle did not come to. -/
def pending (l : Listed) : Remediation :=
  .notAttempted l.execution.id l.execution.status cancelledReason

/-- Deals with the listed executions until the cycle is cancelled. -/
def reapListed (status : Status) (rule : StalenessRule) :
    List Listed → CycleReport → World → CycleReport × World
  | [], r, w => (r, w)
  | l :: ls, r, w =>
    if w.cancelling then (r.cutShort.remediated ((l :: ls).map pending), w)
    else
      let (r, w) := reapOne status rule l r w
      reapListed status rule ls r w

def reapStatus (status : Status) (rule : StalenessRule) (r : CycleReport) (w : World) :
    CycleReport × World :=
  let w := w.say Log.info ("Cleaning up stale flows for status: " ++ status.name)
  let r := r.scan status
  match w.query status rule with
  | (.error f, w) =>
    (r.queryFailed status f.message, w.say Log.error
      ("❌ Error fetching stale flows for status " ++ status.name ++ ": " ++ f.message))
  | (.ok ls, w) => reapListed status rule ls r w

/-- Deals with the states in order until the cycle is cancelled. -/
def reapStatuses : List (Status × StalenessRule) → CycleReport → World → CycleReport × World
  | [], r, w => (r, w)
  | (status, rule) :: rest, r, w =>
    if w.cancelling then (r.cutShort, w)
    else
      let (r, w) := reapStatus status rule r w
      reapStatuses rest r w

/-- The last line of a cycle's log. -/
def summary (r : CycleReport) : String :=
  "Reap cycle finished: " ++ toString (r.remediations.countP Remediation.attempted) ++
    " remediated, " ++ toString r.skipped.length ++ " skipped, " ++
    toString r.queryErrors.length ++ " query errors"

def reapCycle (w : World) : Except Failure CycleReport × World :=
  match w.readClock with
  | (.error f, w) => (.error f, w)
  | (.ok startedAt, w) =>
    let (r, w) := reapStatuses w.policy.monitoredRules { startedAt } w
    match w.readClock with
    | (.error f, w) => (.error f, w)
    | (.ok finishedAt, w) =>
      let r := { r with finishedAt := some finishedAt }
      (.ok r, { w with lastReport := some r }.say Log.info (summary r))

end World

end FlowWarden.Reaper
