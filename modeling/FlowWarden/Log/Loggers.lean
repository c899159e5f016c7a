import FlowWarden.Log.Files
import FlowWarden.Log.Record
/-!
# Loggers

A logger has a name of words with points between them, a level below which it drops records, and
handlers that write them. A record also reaches the handlers of the loggers above its own, up to
the root, until one does not pass it on. A logger that nobody has set up passes everything on, so
only those that have been count as being there.
-/

namespace FlowWarden.Log

/-- Where a handler writes. -/
inductive Target
  | console
  | file (place : Place)
deriving DecidableEq, Repr

/-- Writes the records from a level on. -/
structure Handler where
  level : Level
  target : Target
  /-- Whether a line begins with the name of the logger. -/
  named : Bool := true
deriving DecidableEq, Repr

/-- A named place in the program that writes records. -/
structure Logger where
  /-- Records below are dropped. Zero leaves the decision to the logger above. -/
  level : Level := 0
  handlers : List Handler := []
  /-- Whether records are passed on to the logger above. -/
  propagates : Bool := true
deriving DecidableEq, Repr

/-- A record as it was written. -/
structure Entry where
  level : Level
  logger : String
  message : String
deriving DecidableEq, Repr

/-- The name of the root logger, and how lines show it. -/
def rootName : String := "root"

def Entry.line (named : Bool) (e : Entry) : String :=
  (if named then e.logger ++ " - " else "") ++ levelName e.level ++ " - " ++ e.message ++ "\n"

/-- All loggers, and what they write to. -/
structure Loggers where
  byName : List (String × Logger) := [(rootName, { level := warning })]
  files : Files := {}
  /-- The records on the console. -/
  console : List Entry := []
  /-- The lines on the console. -/
  consoleText : String := ""

/-- The names that a reversed name extends, the longest first. Of two points in a row the first one
ends no name: `x..y` extends `x.` and not `x`. -/
def enclosingNames : Nat → List Char → List String
  | 0, _ => []
  | fuel + 1, reversed =>
    match reversed.dropWhile (· ≠ '.') with
    | [] => []
    | _ :: rest =>
      if rest.isEmpty then []
      else String.ofList rest.reverse :: enclosingNames fuel (rest.drop 1)

namespace Loggers

/-- The logger of a name. One that nobody has used yet has no handlers. -/
def find (l : Loggers) (name : String) : Logger :=
  (Keyed.find? name l.byName).getD {}

def set (l : Loggers) (name : String) (logger : Logger) : Loggers :=
  { l with byName := Keyed.insert name logger l.byName }

def isThere (l : Loggers) (name : String) : Bool :=
  name ≠ rootName && (Keyed.find? name l.byName).isSome

/-- The name of the logger next above, unless that is the root. -/
def above? (l : Loggers) (name : String) : Option String :=
  (enclosingNames name.length name.toList.reverse).find? l.isThere

/-- The names of the loggers above, without the root. Each one decides by its own name which comes
next, so that `x` is above `x..y` if `x.` is there. -/
def namesAbove (l : Loggers) : Nat → String → List String
  | 0, _ => []
  | fuel + 1, name =>
    match l.above? name with
    | none => []
    | some next => next :: l.namesAbove fuel next

/-- A logger and those above it, up to the root. -/
def chain (l : Loggers) (name : String) : List Logger :=
  if name = rootName then [l.find rootName]
  else (name :: l.namesAbove name.length name ++ [rootName]).map l.find

/-- The level below which a logger drops records: the first in its chain that is not zero. -/
def effectiveLevel (l : Loggers) (name : String) : Level :=
  (((l.chain name).map Logger.level).find? (· ≠ 0)).getD 0

/-- The handlers that a record of a logger reaches. -/
def reached : List Logger → List Handler
  | [] => []
  | g :: gs => g.handlers ++ (if g.propagates then reached gs else [])

/-- Writes a record by one handler. -/
def write (e : Entry) (l : Loggers) (h : Handler) : Loggers :=
  if e.level < h.level then l
  else match h.target with
    | .console => { l with
        console := l.console ++ [e]
        consoleText := l.consoleText ++ e.line h.named }
    | .file place => { l with files := l.files.append place (e.line h.named) }

/-- Hands a record to a logger. Where no handler is reached, the console shows the message of a
grave record alone. -/
def log (l : Loggers) (e : Entry) : Loggers :=
  if e.level < l.effectiveLevel e.logger then l
  else
    let handlers := reached (l.chain e.logger)
    if handlers.isEmpty then
      if e.level < warning then l else { l with consoleText := l.consoleText ++ e.message ++ "\n" }
    else handlers.foldl (write e) l

/-- Hands one record after another to their loggers. -/
def logAll (l : Loggers) (records : List Record) : Loggers :=
  records.foldl (fun l r => l.log ⟨r.level, r.source.name, r.message⟩) l

end Loggers

end FlowWarden.Log
