import FlowWarden.CommandLine.Outcome
import FlowWarden.Document.Json.Printer
import FlowWarden.Execution.Staleness
import FlowWarden.Settings.Load
/-!
# The command that shows the policy

Shows the settings that a reaper would run with, the staleness policy that they make, and the
states that are monitored.
-/

namespace FlowWarden.Reaper.Command

open CommandLine

/-- Why there is nothing to show. -/
inductive Fault
  | settings (f : Settings.Fault)
  | window (f : Duration.Fault)
  /-- An integer has too many digits to be shown. -/
  | unwritable
deriving DecidableEq, Repr

def grammar : Grammar where
  parameters := [helpParameter, ⟨"config", ["--config"], .value fun _ => true, false⟩]

/-- What the command shows. -/
def report (s : Settings) (p : StalenessPolicy) : Document :=
  .record [("settings", s.toDocument), ("policy", p.toDocument),
    ("monitored_statuses", .list (p.monitored.map fun status => .text status.name))]

/-- The policy that settings make, and the warnings. -/
def policyOf (s : Settings) : Except Duration.Fault StalenessPolicy × List Log.Record :=
  StalenessPolicy.build (.int s.maxRunning) (s.windows.map fun w => (w.1, .int w.2))

/-- Carries out the command on settings from the environment. -/
def carryOut (base : Settings) (path : Option String) (file : Settings.FileState)
    (loggers : Log.Loggers) : Outcome Fault :=
  let loggers := loggers.configure (some base.logLevel) base.logFile
  let (settings, records) := base.load path file
  let loggers := loggers.logAll records
  match settings with
  | .error f => { ending := .failed (.settings f), loggers }
  | .ok settings =>
    let loggers := loggers.setLevel Log.rootName (Log.levelOfName (some settings.logLevel))
    let (policy, records) := policyOf settings
    let loggers := loggers.logAll records
    match policy with
    | .error f => { ending := .failed (.window f), loggers }
    | .ok policy =>
      let shown := report settings policy
      if shown.isWritable then
        { ending := .exit 0
          printed := Document.Json.render Document.Json.indented shown ++ "\n"
          loggers }
      else { ending := .failed .unwritable, loggers }

def run (env : Environment) (file : String → Settings.FileState) (loggers : Log.Loggers)
    (line : List String) : Outcome Fault :=
  match grammar.read line with
  | .error r => { ending := .refused r, loggers }
  | .ok args =>
    let path := args.value? "config"
    carryOut (Settings.ofEnvironment env).1 path (path.elim .missing file) loggers

end FlowWarden.Reaper.Command
