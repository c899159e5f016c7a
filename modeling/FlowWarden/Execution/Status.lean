/-!
# The states of an execution

A flow execution passes through intermediate states and ends in a final one. Three moments of
its life are recorded.
-/

namespace FlowWarden

inductive Status
  | ready
  | dispatching
  | preparing
  | running
  | paused
  | killing
  | executionStopped
  | failedFinishing
  | succeeded
  | failed
  | killed
  | cancelled
deriving DecidableEq, Repr

namespace Status

/-- Every state, in the order of an execution's life. -/
def all : List Status :=
  [ready, dispatching, preparing, running, paused, killing, executionStopped, failedFinishing,
    succeeded, failed, killed, cancelled]

def name : Status → String
  | ready => "READY"
  | dispatching => "DISPATCHING"
  | preparing => "PREPARING"
  | running => "RUNNING"
  | paused => "PAUSED"
  | killing => "KILLING"
  | executionStopped => "EXECUTION_STOPPED"
  | failedFinishing => "FAILED_FINISHING"
  | succeeded => "SUCCEEDED"
  | failed => "FAILED"
  | killed => "KILLED"
  | cancelled => "CANCELLED"

def ofName? (s : String) : Option Status :=
  all.find? fun status => status.name == s

end Status

/-- A moment in the life of an execution. -/
inductive TimestampField
  | submit
  | start
  | update
deriving DecidableEq, Repr

namespace TimestampField

def all : List TimestampField :=
  [submit, start, update]

/-- The key of a moment in reports. -/
def key : TimestampField → String
  | submit => "submit_time"
  | start => "start_time"
  | update => "update_time"

def name : TimestampField → String
  | submit => "SUBMIT"
  | start => "START"
  | update => "UPDATE"

def ofKey? (s : String) : Option TimestampField :=
  all.find? fun field => field.key == s

end TimestampField

end FlowWarden
