import FlowWarden.Document.Basic
import FlowWarden.Execution.Status
import FlowWarden.Keyed
import FlowWarden.Log.Record
import FlowWarden.Text.Upper
/-!
# When an execution is stale

`StalenessPolicy` is a table from states to windows: an execution that has been in its state for
longer than the window is stale. A negative window exempts its state. `StalenessPolicy.build`
makes the standard table from the longest time that a flow may run and from windows that an
operator sets by name.
-/

namespace FlowWarden

/-- How long an execution may be in a state, counted from one of its moments. -/
structure StalenessRule where
  maxAge : Duration
  field : TimestampField
deriving DecidableEq, Repr

/-- A rule that keeps its state from being looked at. -/
def StalenessRule.isExempt (r : StalenessRule) : Bool :=
  r.maxAge.isNegative

/-- A table of rules with at most one for each state. -/
structure StalenessPolicy where
  rules : List (Status × StalenessRule)
  distinct : (Keyed.keys rules).Nodup

namespace StalenessPolicy

/-- The table of the given rules. A later rule for a state replaces an earlier one. -/
def ofRules (rules : List (Status × StalenessRule)) : StalenessPolicy :=
  ⟨Keyed.ofPairs rules, Keyed.nodup_keys_ofPairs rules⟩

def ruleFor? (p : StalenessPolicy) (status : Status) : Option StalenessRule :=
  Keyed.find? status p.rules

/-- The rules that are not exempt, in table order. -/
def monitoredRules (p : StalenessPolicy) : List (Status × StalenessRule) :=
  p.rules.filter fun r => !r.2.isExempt

/-- The states that are looked at, in table order. -/
def monitored (p : StalenessPolicy) : List Status :=
  p.monitoredRules.map Prod.fst

/-- The states that have an exempt rule, in table order. -/
def exempt (p : StalenessPolicy) : List Status :=
  (p.rules.filter fun r => r.2.isExempt).map Prod.fst

def toDocument (p : StalenessPolicy) : Document :=
  .record (p.rules.map fun r => (r.1.name, .record [
    ("max_age_minutes", .float r.2.maxAge.minutes),
    ("timestamp_field", .text r.2.field.key)]))

/-! ## The standard table -/

/-- A window in minutes and the moment that it counts from. -/
structure Window where
  minutes : Number
  field : TimestampField
deriving DecidableEq

/-- Minutes added to the longest running time, so that the flow runner can end a flow first. -/
def runningBuffer : Int := 60

/-- The window of running flows: exempt unless the running time is limited. -/
def runningMinutes (maxRunning : Number) : Number :=
  if maxRunning.isPositive then maxRunning.shift runningBuffer else .int (-1)

/-- The standard windows. -/
def standardWindows (maxRunning : Number) : List (Status × Window) :=
  let running := runningMinutes maxRunning
  [(.dispatching, ⟨.int 10, .submit⟩),
    (.preparing, ⟨.int 15, .submit⟩),
    (.running, ⟨running, .start⟩),
    (.paused, ⟨running, .start⟩),
    (.killing, ⟨.int 15, .update⟩),
    (.executionStopped, ⟨.int 15, .update⟩),
    (.failedFinishing, ⟨running, .start⟩)]

/-- A warning about an operator's window that is ignored. -/
def ignored (why name : String) : Log.Record :=
  ⟨Log.warning, .models, "Ignoring staleness window for " ++ why ++ " status " ++ name⟩

/-- The windows with one of them set by the name of its state, in any case. -/
def override (windows : List (Status × Window)) (name : String) (minutes : Number) :
    List (Status × Window) × List Log.Record :=
  match Status.ofName? (Text.upper name) with
  | none => (windows, [ignored "unknown" name])
  | some status =>
    match Keyed.find? status windows with
    | none => (windows, [ignored "unmonitored" name])
    | some w => (Keyed.insert status { w with minutes } windows, [])

/-- The windows with one after another set, and the warnings. -/
def overrideAll (windows : List (Status × Window)) :
    List (String × Number) → List (Status × Window) × List Log.Record
  | [] => (windows, [])
  | (name, minutes) :: rest =>
    let (windows, warnings) := override windows name minutes
    let (windows, more) := overrideAll windows rest
    (windows, warnings ++ more)

def Window.rule (w : Window) : Except Duration.Fault StalenessRule :=
  (Duration.ofUnits Duration.minute w.minutes).map fun maxAge => ⟨maxAge, w.field⟩

/-- The rules of windows. The first window that is no duration is the fault. -/
def rulesOf : List (Status × Window) → Except Duration.Fault (List (Status × StalenessRule))
  | [] => .ok []
  | (status, w) :: rest => do
    let rule ← w.rule
    let rules ← rulesOf rest
    pure ((status, rule) :: rules)

/-- The standard table for flows that may run `maxRunning` minutes, with an operator's windows. -/
def build (maxRunning : Number) (overrides : List (String × Number)) :
    Except Duration.Fault StalenessPolicy × List Log.Record :=
  let (windows, warnings) := overrideAll (standardWindows maxRunning) overrides
  ((rulesOf windows).map ofRules, warnings)

end StalenessPolicy

end FlowWarden
