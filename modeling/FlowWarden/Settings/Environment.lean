import FlowWarden.Log.Record
import FlowWarden.Settings.Basic
import FlowWarden.Text.Quoted
/-!
# Settings from the environment

Every setting but the windows can be set by an environment variable. An integer that is not one is
reported and ignored.
-/

namespace FlowWarden

/-- The variables that are set, with their values. -/
abbrev Environment := String → Option String

namespace Environment

/-- The integer that a variable gives, and a warning if it gives none. A blank variable is as good
as one that is not set. -/
def integer (env : Environment) (name : String) (default : Int) : Int × List Log.Record :=
  match env name with
  | none => (default, [])
  | some raw =>
    if Text.isBlankText raw then (default, [])
    else match Text.readInteger raw with
      | some n => (n, [])
      | none => (default, [⟨Log.warning, .settings, "Invalid integer for " ++ name ++ "=" ++
          Text.quoted raw ++ ", using default " ++ toString default⟩])

end Environment

namespace Settings

def IntegerKey.variableName : IntegerKey → String
  | .cleanupInterval => "STALE_EXECUTION_CLEANUP_INTERVAL_MINUTES"
  | .maxRunning => "MAX_FLOW_RUNNING_MINUTES"
  | .shutdownGrace => "REAPER_SHUTDOWN_GRACE_SECONDS"
  | .devPodGrace => "DEV_POD_GRACE_HOURS"

def TextKey.variableName : TextKey → String
  | .namespaceName => "FLOW_CONTAINER_NAMESPACE"
  | .podName => "FLOW_CONTAINER_POD_PREFIX"
  | .kubeconfig => "KUBECONFIG"
  | .logLevel => "LOG_LEVEL"
  | .logFile => "LOG_FILE"

/-- Sets the integers that variables give, and collects the warnings. -/
def readIntegers (env : Environment) : List IntegerKey → Settings → Settings × List Log.Record
  | [], s => (s, [])
  | k :: ks, s =>
    let (n, warnings) := env.integer k.variableName (k.get s)
    let (s, more) := readIntegers env ks (k.set s n)
    (s, warnings ++ more)

/-- Sets the texts that variables give. -/
def readTexts (env : Environment) (s : Settings) : Settings :=
  TextKey.all.foldl (fun s k => (env k.variableName).elim s fun text => k.set s text) s

/-- The settings that an environment gives, and the warnings. -/
def ofEnvironment (env : Environment) : Settings × List Log.Record :=
  readIntegers env IntegerKey.all (readTexts env {})

end Settings

end FlowWarden
