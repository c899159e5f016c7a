import FlowWarden.CommandLine.Basic
import FlowWarden.Log.Setup
/-!
# What a command came to
-/

namespace FlowWarden.CommandLine

inductive Ending (ε : Type)
  | exit (code : Nat)
  /-- The command line was not carried out. -/
  | refused (r : Refusal)
  /-- Something happened that the command does not foresee. -/
  | failed (e : ε)

/-- How a command ended, what it printed, and the loggers that it leaves. -/
structure Outcome (ε : Type) where
  ending : Ending ε
  printed : String := ""
  loggers : Log.Loggers

/-- The level that the root logger is left at. -/
def Outcome.rootLevel {ε : Type} (o : Outcome ε) : Log.Level :=
  (o.loggers.find Log.rootName).level

end FlowWarden.CommandLine
