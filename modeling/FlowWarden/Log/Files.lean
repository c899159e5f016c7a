import FlowWarden.Keyed
/-!
# Files of log lines

The directories and text files that logs are written to. A place is the list of names on the way
to it; `..` goes back by one name. There are no links, and a path is taken to hold no character
U+0000 and not to be too long as a whole.
-/

namespace FlowWarden.Log

/-- The names on the way to a place. -/
abbrev Place := List String

/-- Why a file cannot be written or a directory cannot be made. -/
inductive FileFault
  | missing
  | notADirectory
  | isADirectory
  | alreadyThere
  | nameTooLong
deriving DecidableEq, Repr

/-- Directories and files. -/
structure Files where
  directories : List Place := []
  files : List (Place × String) := []
  /-- The place from which relative paths start. -/
  here : Place := []
  /-- How the system words a fault. -/
  wording : FileFault → String := fun _ => ""

/-- The directory part of a path: all before its last slash, without the slashes at its end
unless there is nothing else. -/
def directoryOf (path : String) : String :=
  let upTo := (path.toList.reverse.dropWhile (· ≠ '/')).reverse
  let trimmed := (upTo.reverse.dropWhile (· = '/')).reverse
  String.ofList (if trimmed.isEmpty then upTo else trimmed)

/-- A directory and a name in it, as one path. -/
def joinPath (directory name : String) : String :=
  if directory = "" ∨ directory.toList.getLast? = some '/' then directory ++ name
  else directory ++ "/" ++ name

/-- One more name on the way to a place. -/
def Place.enter (place : Place) (name : String) : Place :=
  if name = "" ∨ name = "." then place
  else if name = ".." then place.dropLast
  else place ++ [name]

namespace Files

/-- The place that a path starts from. -/
def start (fs : Files) (path : String) : Place :=
  if path.toList.head? = some '/' then [] else fs.here

/-- The place that a path leads to. -/
def resolve (fs : Files) (path : String) : Place :=
  (path.splitToList (· == '/')).foldl Place.enter (fs.start path)

def read? (fs : Files) (place : Place) : Option String :=
  Keyed.find? place fs.files

def isFile (fs : Files) (place : Place) : Bool :=
  (fs.read? place).isSome

def isDirectory (fs : Files) (place : Place) : Bool :=
  place.isEmpty || fs.directories.contains place

/-- The most bytes that a name may have. -/
def maxNameBytes : Nat := 255

/-- Enters one name after another from a directory that is there, and makes what is missing. What was
made stays, also where a later name cannot be entered. -/
def makeAlong : Place → List String → Files → Except FileFault Unit × Files
  | _, [], fs => (.ok (), fs)
  | place, name :: names, fs =>
    let next := place.enter name
    if maxNameBytes < name.utf8ByteSize then (.error .nameTooLong, fs)
    else if fs.isFile next then
      (.error (if names.isEmpty then .alreadyThere else .notADirectory), fs)
    else if fs.isDirectory next then makeAlong next names fs
    else makeAlong next names { fs with directories := fs.directories ++ [next] }

/-- Makes the directory at a path and all that the path goes through, as far as they are missing. An
empty path leads to none. -/
def makeDirectories (fs : Files) (path : String) : Except FileFault Unit × Files :=
  if path = "" then (.error .missing, fs)
  else makeAlong (fs.start path) ((path.splitToList (· == '/')).filter (· ≠ "")) fs

/-- Why a file at a place cannot be opened for writing. -/
def openFault? (fs : Files) (place : Place) : Option FileFault :=
  let parents := (List.range place.length).map place.take
  if parents.any fs.isFile then some .notADirectory
  else if !parents.all fs.isDirectory then some .missing
  else if fs.isDirectory place then some .isADirectory
  else if place.any (maxNameBytes < ·.utf8ByteSize) then some .nameTooLong
  else none

/-- Opens a file for writing, empty or with what it holds already. -/
def openFile (fs : Files) (place : Place) (keep : Bool) : Except FileFault Files :=
  match fs.openFault? place with
  | some f => .error f
  | none =>
    let old := if keep then (fs.read? place).getD "" else ""
    .ok { fs with files := Keyed.insert place old fs.files }

/-- Adds text to the end of a file. -/
def append (fs : Files) (place : Place) (text : String) : Files :=
  { fs with files := Keyed.insert place ((fs.read? place).getD "" ++ text) fs.files }

end Files

end FlowWarden.Log
