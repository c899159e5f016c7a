import FlowWarden.Document.Basic
import FlowWarden.Keyed
/-!
# Settings

What an operator can set. Four settings are integers and five are texts; each has a name, which is
its key in a settings file. The windows after which an execution is stale are set one by one
under the name of their state.
-/

namespace FlowWarden

/-- The settings of the reaper and of its connection to the cluster. -/
structure Settings where
  /-- Minutes from one cycle to the next. -/
  cleanupInterval : Int := 10
  /-- Minutes that a flow may run; no limit if negative. -/
  maxRunning : Int := -1
  /-- Seconds that a shutdown waits for a cycle. -/
  shutdownGrace : Int := 30
  /-- Hours that the container of a developer is left alone. -/
  devPodGrace : Int := 48
  namespaceName : String := "default"
  podName : String := "fc-dep"
  kubeconfig : Option String := none
  logLevel : String := "INFO"
  logFile : Option String := none
  /-- Minutes under the names of states. -/
  windows : List (String × Int) := []
deriving DecidableEq, Repr

namespace Settings

inductive IntegerKey
  | cleanupInterval
  | maxRunning
  | shutdownGrace
  | devPodGrace
deriving DecidableEq, Repr

inductive TextKey
  | namespaceName
  | podName
  | kubeconfig
  | logLevel
  | logFile
deriving DecidableEq, Repr

namespace IntegerKey

/-- All of them, in the order in which they are read. -/
def all : List IntegerKey :=
  [.cleanupInterval, .maxRunning, .shutdownGrace, .devPodGrace]

def name : IntegerKey → String
  | .cleanupInterval => "cleanup_interval_minutes"
  | .maxRunning => "max_flow_running_minutes"
  | .shutdownGrace => "shutdown_grace_seconds"
  | .devPodGrace => "dev_pod_grace_hours"

def get (s : Settings) : IntegerKey → Int
  | .cleanupInterval => s.cleanupInterval
  | .maxRunning => s.maxRunning
  | .shutdownGrace => s.shutdownGrace
  | .devPodGrace => s.devPodGrace

def set (s : Settings) (n : Int) : IntegerKey → Settings
  | .cleanupInterval => { s with cleanupInterval := n }
  | .maxRunning => { s with maxRunning := n }
  | .shutdownGrace => { s with shutdownGrace := n }
  | .devPodGrace => { s with devPodGrace := n }

theorem get_set (s : Settings) (n : Int) (k k' : IntegerKey) :
    get (set s n k) k' = if k = k' then n else get s k' := by
  cases k <;> cases k' <;> rfl

theorem windows_set (s : Settings) (n : Int) (k : IntegerKey) :
    (set s n k).windows = s.windows := by
  cases k <;> rfl

end IntegerKey

namespace TextKey

/-- All of them, in the order in which they are read. -/
def all : List TextKey :=
  [.namespaceName, .podName, .kubeconfig, .logLevel, .logFile]

def name : TextKey → String
  | .namespaceName => "namespace"
  | .podName => "pod_prefix"
  | .kubeconfig => "kubeconfig_path"
  | .logLevel => "log_level"
  | .logFile => "log_file"

/-- The value of a setting, if it has one. -/
def get (s : Settings) : TextKey → Option String
  | .namespaceName => some s.namespaceName
  | .podName => some s.podName
  | .kubeconfig => s.kubeconfig
  | .logLevel => some s.logLevel
  | .logFile => s.logFile

def set (s : Settings) (text : String) : TextKey → Settings
  | .namespaceName => { s with namespaceName := text }
  | .podName => { s with podName := text }
  | .kubeconfig => { s with kubeconfig := some text }
  | .logLevel => { s with logLevel := text }
  | .logFile => { s with logFile := some text }

theorem get_set (s : Settings) (text : String) (k k' : TextKey) :
    get (set s text k) k' = if k = k' then some text else get s k' := by
  cases k <;> cases k' <;> rfl

theorem windows_set (s : Settings) (text : String) (k : TextKey) :
    (set s text k).windows = s.windows := by
  cases k <;> rfl

end TextKey

def toDocument (s : Settings) : Document :=
  .record ((IntegerKey.all.map fun k => (k.name, .int (k.get s))) ++
    (TextKey.all.map fun k => (k.name, .ofText? (k.get s))) ++
    [("staleness_windows", .record (s.windows.map fun w => (w.1, .int w.2)))])

end Settings

end FlowWarden
