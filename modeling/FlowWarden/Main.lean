import FlowWarden.Autoscaler.Command
import FlowWarden.Document.Json.Reader
import FlowWarden.Reaper.Command
/-!
# The program

`policy` shows the staleness policy that the settings make. `recommend` shows the amounts that a
flow container would request; the cluster is given on standard input, as a JSON map of the time by
its clock (`now`) and its objects under `namespace/name` (`objects`).
-/

open FlowWarden

namespace FlowWarden.Program

/-- The variables that settings are read from, with their values. -/
def environment : IO Environment := do
  let names := Settings.IntegerKey.all.map Settings.IntegerKey.variableName ++
    Settings.TextKey.all.map Settings.TextKey.variableName
  let values ← names.mapM fun name => do
    let value ← IO.getEnv name
    pure (name, value)
  pure fun name => (values.lookup name).join

/-- What is found at a path. -/
def fileState (path : String) : IO Settings.FileState := do
  match ← (IO.FS.readBinFile path).toBaseIO with
  | .ok bytes => pure (.holds bytes)
  | .error (.noFileOrDirectory ..) => pure .missing
  | .error _ => pure .unreadable

/-- Adds the lines that were logged to a file at its path. -/
def writeLog (path : Option String) (files : Log.Files) : IO Unit := do
  match path with
  | none | some "" => pure ()
  | some path =>
    let text := (files.read? (files.resolve path)).getD ""
    IO.FS.withFile path .append fun h => h.putStr text

/-- Shows what a command printed, and gives the code that it ended with. -/
def finish {ε : Type} (o : CommandLine.Outcome ε) : IO UInt32 := do
  (← IO.getStdout).putStr o.printed
  (← IO.getStderr).putStr o.loggers.consoleText
  match o.ending with
  | .exit code => pure (.ofNat code)
  | .refused r =>
    if r = .misuse then (← IO.getStderr).putStrLn "These arguments are not understood."
    pure (.ofNat r.exitCode)
  | .failed _ =>
    (← IO.getStderr).putStrLn "The command failed."
    pure 1

def policy (line : List String) : IO UInt32 := do
  let env ← environment
  let path := match Reaper.Command.grammar.read line with
    | .ok args => args.value? "config"
    | .error _ => none
  let file ← path.elim (pure .missing) fileState
  let o := Reaper.Command.run env (fun _ => file) {} line
  writeLog (Settings.ofEnvironment env).1.logFile o.loggers.files
  finish o

/-- The time and the objects of a cluster. -/
def cluster (text : String) : Option (Moment × Autoscaler.Store) := do
  let d ← Document.Json.read? text
  match d.get? "now", d.get? "objects" with
  | some (.text now), some (.map entries) =>
    let now ← Moment.read? now
    let objects := entries.filterMap fun e => match e.1 with
      | .text key => some (key, e.2)
      | _ => none
    some (now, { objects })
  | _, _ => none

def recommend (line : List String) : IO UInt32 := do
  let env ← environment
  let text ← (← IO.getStdin).getLine
  match cluster text with
  | some (now, store) => finish (Autoscaler.Command.run env now store {} line).outcome
  | none =>
    (← IO.getStderr).putStrLn "The cluster on standard input is not understood."
    pure 2

end FlowWarden.Program

/-- Runs the command that the first argument names. -/
def main (args : List String) : IO UInt32 :=
  match args with
  | "policy" :: line => Program.policy line
  | "recommend" :: line => Program.recommend line
  | _ => do
    (← IO.getStderr).putStrLn "The commands are policy and recommend."
    pure 2
