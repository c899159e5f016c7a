import FlowWarden.Document.Literal
import FlowWarden.Execution.Status
import FlowWarden.Text.Blank
/-!
# Executions

A flow execution as the execution store gives it. Messages show its number, and its parameters are
compared as texts: both are taken to be writable, as `Text.isWritable` says.
-/

namespace FlowWarden

/-- One flow execution. -/
structure Execution where
  id : Int
  flow : String
  status : Status
  user : String
  submitTime : Option Moment
  startTime : Option Moment := none
  updateTime : Option Moment := none
  parameters : List (Document × Document) := []

namespace Execution

/-- A recorded moment of the execution, if it has come. -/
def timestamp (e : Execution) : TimestampField → Option Moment
  | .submit => e.submitTime
  | .start => e.startTime
  | .update => e.updateTime

/-- The parameter that keeps a pod alive for debugging. -/
def devPodParameter : String := "enable.dev.pod"

/-- Whether a value says `true`, blanks around it and case aside. No letter outside ASCII has one
of the letters of that word as its lower case. -/
def saysTrue (d : Document) : Bool :=
  (Text.trimChars d.display.toList).map Char.toLower == ['t', 'r', 'u', 'e']

/-- Whether somebody keeps the pod of the execution alive for debugging. -/
def isDevPod (e : Execution) : Bool :=
  saysTrue ((Document.field? devPodParameter e.parameters).getD (.text ""))

end Execution

end FlowWarden
