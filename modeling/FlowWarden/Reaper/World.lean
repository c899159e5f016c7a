import FlowWarden.Cluster.Container
import FlowWarden.Execution.Report
import FlowWarden.Execution.Staleness
import FlowWarden.Reaper.Failure
import FlowWarden.Reaper.Service
/-!
# The reaper and its surroundings

`World` is the reaper together with everything around it that a cycle can change or ask: the
executions, the clock, the worker, and the collaborators. A `Script` says how the collaborators
behave: which calls fail, what a cancellation does, and at which calls somebody shuts the reaper
down. Every call is kept in order, and so is the log.
-/

namespace FlowWarden.Reaper

/-- A call of the reaper to its surroundings, or of somebody to the reaper. -/
inductive Call
  | query (status : Status) (field : TimestampField) (maxAge : Duration)
  | cancel (id : Int) (user : String)
  | restart (id : Int) (prior : Status)
  | delete (id : Int)
  | shutdown (stopped : Bool)
  | join (seconds : Float)
  | startWorker
deriving DecidableEq, Repr

/-- The collaborators of the reaper. -/
inductive Collaborator
  | store
  | canceller
  | restarter
  | deleter
deriving DecidableEq, Repr

/-- How the collaborators behave. -/
structure Script where
  /-- Why the executions of a state cannot be listed. -/
  storeFault : Status → Option String := fun _ => none
  /-- Why a step for an execution fails after so many calls. -/
  stepFault : Nat → RemediationStep → Int → Option String := fun _ _ _ => none
  /-- The grace times of the shutdowns that happen during a call. -/
  shutdowns : Call → List (Option Number) := fun _ => []
  /-- The state that a cancellation leaves behind, if it changes the state. -/
  cancelTo : Option Status := some .killing
  /-- The collaborators that there are not. -/
  lacks : Collaborator → Bool := fun _ => false

/-- A clock that moves on with every reading. -/
structure Clock where
  now : Moment
  /-- Microseconds from one reading to the next. -/
  tick : Int := 0
  /-- How often it was read. -/
  readings : Nat := 0
  /-- The readings that fail. -/
  fails : Nat → Bool := fun _ => false

/-- Reads the clock. A reading that fails does not move it. -/
def Clock.read (c : Clock) : Except Failure Moment × Clock :=
  let n := c.readings + 1
  let c := { c with readings := n }
  if c.fails n then (.error (.raised ("clock failed at call " ++ toString n)), c)
  else match c.now.shift? c.tick with
    | none => (.error .outOfRange, c)
    | some next => (.ok c.now, { c with now := next })

/-- An execution with its place in the store. -/
structure Listed where
  place : Nat
  execution : Execution

/-- The reaper and its surroundings. -/
structure World where
  policy : StalenessPolicy
  /-- Seconds between two cycles. -/
  interval : Number
  /-- Seconds that a shutdown waits for a cycle. -/
  grace : Number
  devPodGrace : Duration
  script : Script := {}
  executions : List Execution := []
  clock : Clock
  service : Service := {}
  /-- The cluster that holds the containers, where they are not a collaborator's business. -/
  containers : Option Cluster.Containers := none
  lastReport : Option CycleReport := none
  calls : List Call := []
  log : List Log.Record := []

namespace World

def say (w : World) (level : Log.Level) (message : String) : World :=
  { w with log := w.log ++ [⟨level, .reaper, message⟩] }

def note (w : World) (c : Call) : World :=
  { w with calls := w.calls ++ [c] }

/-- Whether the current cycle is to end early. -/
def cancelling (w : World) : Bool :=
  w.service.cancelling

def readClock (w : World) : Except Failure Moment × World :=
  let (reading, clock) := w.clock.read
  (reading, { w with clock })

/-! ## The worker -/

def start (w : World) : World :=
  match w.service.start with
  | (false, _) => w.say Log.warning "Container cleanup service is already running"
  | (true, service) =>
    ({ w with service }.note .startWorker).say Log.info (startedText w.interval)

/-- Shuts the reaper down, and says whether no worker is left. -/
def shutdown (grace : Option Number) (w : World) : Bool × World :=
  let grace := grace.getD w.grace
  let r := w.service.shutdown grace.toFloat
  let w := { w with service := r.service, calls := w.calls ++ r.joins.map Call.join }
  let w := w.say Log.info shutdownText
  let w := if r.forced then
      w.say Log.warning
        ("⚠️ Cleanup cycle still running after " ++ grace.text ++ "s, cancelling it")
    else w
  let w := if r.stopped then w else
    w.say Log.warning "⚠️ Cleanup thread is blocked in a remediation call, abandoning it"
  (r.stopped, w)

/-- Shuts the reaper down on somebody's behalf and notes the answer. -/
def shutdownNoted (w : World) (grace : Option Number) : World :=
  let (stopped, w) := w.shutdown grace
  w.note (.shutdown stopped)

/-- The worker that was started last ends. -/
def exitWorker (w : World) : World :=
  { w with service := w.service.exitLast }

/-! ## Calls to collaborators -/

/-- A call takes place, and with it the shutdowns that happen during it. -/
def happen (w : World) (c : Call) : World :=
  (w.script.shutdowns c).foldl shutdownNoted (w.note c)

def listed (w : World) (status : Status) : List Listed :=
  (w.executions.zipIdx.filter fun e => e.1.status == status).map fun e => ⟨e.2, e.1⟩

/-- Lists the executions in a state. -/
def query (w : World) (status : Status) (rule : StalenessRule) :
    Except Failure (List Listed) × World :=
  if w.script.lacks .store then (.error .notImplemented, w)
  else
    let w := w.happen (.query status rule.field rule.maxAge)
    match w.script.storeFault status with
    | some why => (.error (.raised why), w)
    | none => (.ok (w.listed status), w)

/-- How a step ends that was called. -/
def stepResult (w : World) (step : RemediationStep) (id : Int) : Except Failure Unit :=
  match w.script.stepFault w.calls.length step id with
  | some why => .error (.raised why)
  | none => .ok ()

/-- The state that a cancellation leaves an execution in. -/
def cancelled (w : World) (e : Execution) : Execution :=
  match w.script.cancelTo with
  | some status => { e with status }
  | none => e

/-- Cancels an execution. Its state changes even if the call then fails. -/
def cancel (w : World) (l : Listed) : Except Failure Unit × World :=
  if w.script.lacks .canceller then (.error .notImplemented, w)
  else
    let c := Call.cancel l.execution.id l.execution.user
    let w := w.note c
    let w := { w with executions := w.executions.modify l.place w.cancelled }
    let w := (w.script.shutdowns c).foldl shutdownNoted w
    (w.stepResult .cancel l.execution.id, w)

/-- Hands an execution back for restart. -/
def restart (w : World) (l : Listed) (prior : Status) : Except Failure Unit × World :=
  if w.script.lacks .restarter then (.error .notImplemented, w)
  else
    let w := w.happen (.restart l.execution.id prior)
    (w.stepResult .restart l.execution.id, w)

def delete (w : World) (id : Int) : Except Failure Unit × World :=
  match w.containers with
  | some c =>
    let (result, c') := c.deleteContainer id
    (result.mapError .cluster,
      { w with containers := some { c' with log := [] }, log := w.log ++ c'.log })
  | none =>
    if w.script.lacks .deleter then (.error .notImplemented, w)
    else
      let w := w.happen (.delete id)
      (w.stepResult .deleteContainer id, w)

end World

end FlowWarden.Reaper
