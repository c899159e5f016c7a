import FlowWarden.Log.Loggers
import FlowWarden.Text.Blank
import FlowWarden.Text.Upper
/-!
# Setting loggers up

An application logger writes to the console and, where that can be done, to a file. An execution
logger writes the records of one attempt of one execution to a file of its own. Either is set up
once: with handlers in place nothing changes.
-/

namespace FlowWarden.Log

/-! ## Levels by name -/

/-- The levels with their names. -/
def namedLevels : List (String × Level) :=
  [("CRITICAL", critical), ("FATAL", critical), ("ERROR", error), ("WARN", warning),
    ("WARNING", warning), ("INFO", info), ("DEBUG", debug), ("NOTSET", 0)]

/-- The level of a name in any case, with blanks around it or not. -/
def levelOfName (name : Option String) (default : Level := info) : Level :=
  match name with
  | none => default
  | some s => (namedLevels.lookup (Text.upper (Text.trim s))).getD default

/-! ## Application loggers -/

namespace Loggers

/-- Opens the file of a logger, making the directories on the way to it. -/
def openLogFile (fs : Files) (path : String) : Except FileFault Unit × Files :=
  let directory := directoryOf path
  let made := if directory = "" then (.ok (), fs) else fs.makeDirectories directory
  match made with
  | (.error f, fs) => (.error f, fs)
  | (.ok (), fs) =>
    match fs.openFile (fs.resolve path) true with
    | .error f => (.error f, fs)
    | .ok fs => (.ok (), fs)

/-- Adds a file to a logger. If that cannot be done, the logger says so. -/
def addFile (l : Loggers) (name : String) (level : Level) (path : String) : Loggers :=
  match openLogFile l.files path with
  | (.ok (), files) =>
    let logger := l.find name
    let handler : Handler := { level, target := .file (files.resolve path) }
    { l.set name { logger with handlers := logger.handlers ++ [handler] } with files }
  | (.error f, files) =>
    { l with files }.log ⟨warning, name, "File logging disabled for " ++ path ++ ": " ++
      files.wording f⟩

/-- Sets up an application logger, with a file unless its path is empty. -/
def setUp (l : Loggers) (name : String) (level : Level) (path : Option String) : Loggers :=
  let logger := l.find name
  if !logger.handlers.isEmpty then l
  else
    let handler : Handler := { level, target := .console }
    let l := l.set name { logger with level, handlers := [handler] }
    match path with
    | none | some "" => l
    | some path => l.addFile name level path

/-- The loggers with another level for one of them. -/
def setLevel (l : Loggers) (name : String) (level : Level) : Loggers :=
  l.set name { l.find name with level }

/-- Sets up the root logger, so that all records are shown from a level on. -/
def configure (l : Loggers) (level : Option String) (path : Option String) : Loggers :=
  (l.setUp rootName (levelOfName level) path).setLevel rootName (levelOfName level)

end Loggers

/-! ## Execution loggers -/

/-- One attempt to run an execution of a flow. Its numbers are taken to be writable. -/
structure Attempt where
  flow : String
  execution : Int
  number : Int := 0
deriving DecidableEq, Repr

namespace Attempt

/-- What tells an attempt from all others. -/
def label (a : Attempt) : String :=
  a.flow ++ "." ++ toString a.execution ++ "." ++ toString a.number

def path (directory : String) (a : Attempt) : String :=
  joinPath directory ("_flow." ++ a.label ++ ".log")

def loggerName (a : Attempt) : String :=
  "execution." ++ a.label

end Attempt

namespace Loggers

/-- Sets up the logger of an attempt. Its file is emptied. -/
def openAttempt (l : Loggers) (directory : String) (a : Attempt) (level : Level := info) :
    Except FileFault Unit × Loggers :=
  let name := a.loggerName
  let logger := l.find name
  if !logger.handlers.isEmpty then (.ok (), l)
  else
    let logger := { logger with level, propagates := false }
    let l := l.set name logger
    match l.files.makeDirectories directory with
    | (.error f, files) => (.error f, { l with files })
    | (.ok (), files) =>
      let place := files.resolve (a.path directory)
      match files.openFile place false with
      | .error f => (.error f, { l with files })
      | .ok files =>
        let handler : Handler := { level, target := .file place, named := false }
        (.ok (), { l.set name { logger with handlers := [handler] } with files })

/-- Takes all handlers off a logger. -/
def close (l : Loggers) (name : String) : Loggers :=
  l.set name { l.find name with handlers := [] }

/-- Runs something with the logger of an attempt, which is closed afterwards. -/
def withAttempt (l : Loggers) (directory : String) (a : Attempt) (level : Level)
    (body : Loggers → Loggers) : Except FileFault Unit × Loggers :=
  match l.openAttempt directory a level with
  | (.error f, l) => (.error f, l)
  | (.ok (), l) => (.ok (), (body l).close a.loggerName)

end Loggers

end FlowWarden.Log
