import FlowWarden.Autoscaler.Recommend
import FlowWarden.Binary64.Reader
import FlowWarden.CommandLine.Outcome
import FlowWarden.Document.Json.Printer
import FlowWarden.Document.Yaml.Printer
import FlowWarden.Settings.Environment
/-!
# The command that shows a recommendation

Shows the amounts that a flow container would request, as YAML or as JSON.
-/

namespace FlowWarden.Autoscaler.Command

open CommandLine

def textOption (name : String) (required : Bool := false) : Parameter :=
  ⟨name, ["--" ++ name], .value fun _ => true, required⟩

def numberOption (name : String) : Parameter :=
  ⟨name, ["--" ++ name], .value fun s => (Binary64.read? s).isSome, false⟩

/-- The options of the command and its operand. -/
def grammar : Grammar where
  parameters := [helpParameter, textOption "namespace", textOption "label-name",
    textOption "container-name", numberOption "cpu-multiplier", numberOption "memory-multiplier",
    textOption "max-cpu" true, textOption "max-memory" true,
    ⟨"fallback-to-max", ["--fallback-to-max"], .flag, false⟩, textOption "kubeconfig",
    ⟨"output", ["-o", "--output"], .value fun s => s = "yaml" || s = "json", false⟩]
  operands := ["vpa_name"]

def factor (args : Arguments) (name : String) : Document :=
  .float (((args.value? name).bind Binary64.read?).getD 1)

def requestOf (args : Arguments) (now : Moment) : Request where
  space := args.value "namespace" "default"
  labelName := args.value "label-name" "flow-vpa"
  name := args.value "vpa_name" ""
  container := args.value "container-name" "az-platform-image"
  cpuFactor := factor args "cpu-multiplier"
  memoryFactor := factor args "memory-multiplier"
  maxCpu := .text (args.value "max-cpu" "")
  maxMemory := .text (args.value "max-memory" "")
  policy := if (args.value? "fallback-to-max").isSome then .useMaximum else .fail
  now

/-- A recommendation in the format that the arguments ask for. -/
def render (args : Arguments) (r : Recommendation) : String :=
  if args.value "output" "yaml" = "json" then
    Document.Json.render Document.Json.indented r.toDocument ++ "\n"
  else
    Document.Yaml.render [("cpu", r.cpu.display), ("memory", r.memory.display),
      ("source", r.origin.name)]

structure Result where
  outcome : CommandLine.Outcome Problem
  store : Store
  /-- The file that names the cluster, for each connection that was made. -/
  connections : List (Option String) := []

/-- How the command ends on a problem, and what it says. -/
def endingOf : Problem → Ending Problem × String
  | .notReady n => (.exit 2, "Recommendation not ready: " ++ n.reason.message ++ "\n")
  | .arithmetic f => (.failed (.arithmetic f), "")
  | .malformed m => (.failed (.malformed m), "")
  | p => (.exit 1, "Error: " ++ p.message ++ "\n")

def run (env : Environment) (now : Moment) (store : Store) (loggers : Log.Loggers)
    (line : List String) : Result :=
  match grammar.read line with
  | .error r => { outcome := { ending := .refused r, loggers }, store }
  | .ok args =>
    let base := (Settings.ofEnvironment env).1
    let loggers := loggers.configure (some base.logLevel) none
    let (result, store) := (requestOf args now).recommend store
    let loggers := loggers.logAll store.log
    let connections := [(args.value? "kubeconfig").or base.kubeconfig]
    match result with
    | .ok r =>
      { outcome := { ending := .exit 0, printed := render args r, loggers }, store, connections }
    | .error p =>
      let (ending, said) := endingOf p
      let loggers := { loggers with consoleText := loggers.consoleText ++ said }
      { outcome := { ending, loggers }, store, connections }

end FlowWarden.Autoscaler.Command
