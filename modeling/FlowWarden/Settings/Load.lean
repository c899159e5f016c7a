import FlowWarden.Document.Yaml.Reader
import FlowWarden.Settings.Environment
import FlowWarden.Text.Upper
/-!
# Settings from a file

A settings file holds a map. What it sets comes before the environment, what it sets badly is
reported and ignored, and so is a file that cannot be read. Two kinds of numbers are refused
altogether: infinite ones that should be integers, and integers that a text or a report would have
to show but that have too many digits.
-/

namespace FlowWarden.Settings

/-- Why no settings come out. -/
inductive Fault
  /-- A number that should be an integer is infinite. -/
  | infinite
  /-- An integer has too many digits to be shown. -/
  | unwritable
  /-- The file is not text. -/
  | notText
  /-- The file says that a value is of a kind that it is not. -/
  | badValue (p : Document.Yaml.Problem)
deriving DecidableEq, Repr

/-- What is found where a settings file should be. -/
inductive FileState
  | missing
  | unreadable
  | holds (bytes : ByteArray)

/-! ## Integers -/

/-- Why a value is no integer. -/
inductive NotInteger
  | malformed
  | infinite
deriving DecidableEq, Repr

/-- The integer that a value stands for. A float is cut at its point. -/
def asInteger : Document → Except NotInteger Int
  | .bool b => .ok (if b then 1 else 0)
  | .int n => .ok n
  | .float x => match Binary64.classify x with
    | .nan => .error .malformed
    | .infinite _ => .error .infinite
    | .finite negative m e => .ok (Binary64.truncate negative m e)
  | .text s => match Text.readInteger s with
    | some n => .ok n
    | none => .error .malformed
  | _ => .error .malformed

/-- The integer that a setting is given. A truth value gives none. -/
def settingInteger (d : Document) : Except NotInteger Int :=
  match d with
  | .bool _ => .error .malformed
  | d => asInteger d

def warn (message : String) : Log.Record :=
  ⟨Log.warning, .settings, message⟩

/-- The settings with one integer as the file has it. -/
def applyInteger (entries : List (Document × Document)) (k : IntegerKey) (s : Settings) :
    Except Fault Settings × List Log.Record :=
  match Document.field? k.name entries with
  | none => (.ok s, [])
  | some d => match settingInteger d with
    | .ok n => (.ok (k.set s n), [])
    | .error .infinite => (.error .infinite, [])
    | .error .malformed =>
      if d.isWritable && Text.isWritable (k.get s) then
        (.ok s, [warn ("Invalid value for " ++ k.name ++ ": " ++ d.literal ++
          ", using default " ++ toString (k.get s))])
      else (.error .unwritable, [])

/-- The settings with all integers as the file has them. -/
def applyIntegers (entries : List (Document × Document)) :
    List IntegerKey → Settings → Except Fault Settings × List Log.Record
  | [], s => (.ok s, [])
  | k :: ks, s =>
    match applyInteger entries k s with
    | (.error e, warnings) => (.error e, warnings)
    | (.ok s, warnings) =>
      let (result, more) := applyIntegers entries ks s
      (result, warnings ++ more)

/-! ## Texts -/

/-- The settings with one text as the file has it. -/
def applyText (entries : List (Document × Document)) (k : TextKey) (s : Settings) :
    Except Fault Settings :=
  match Document.field? k.name entries with
  | none | some .null => .ok s
  | some d => if d.isWritable then .ok (k.set s d.display) else .error .unwritable

/-- The settings with all texts as the file has them. -/
def applyTexts (entries : List (Document × Document)) : List TextKey → Settings → Except Fault Settings
  | [], s => .ok s
  | k :: ks, s =>
    match applyText entries k s with
    | .error f => .error f
    | .ok s => applyTexts entries ks s

/-! ## Windows -/

/-- The windows with one of them set. The names of states are in capital letters. -/
def applyWindow (windows : List (String × Int)) (name minutes : Document) :
    Except Fault (List (String × Int)) × List Log.Record :=
  match asInteger minutes with
  | .ok n =>
    if name.isWritable then (.ok (Keyed.insert (Text.upper name.display) n windows), [])
    else (.error .unwritable, [])
  | .error .infinite => (.error .infinite, [])
  | .error .malformed =>
    if name.isWritable && minutes.isWritable then
      (.ok windows, [warn ("Invalid staleness window for " ++ name.display ++ ": " ++
        minutes.literal ++ ", ignoring")])
    else (.error .unwritable, [])

/-- The windows with one after another set. -/
def applyWindows : List (Document × Document) → List (String × Int) →
    Except Fault (List (String × Int)) × List Log.Record
  | [], windows => (.ok windows, [])
  | e :: es, windows =>
    match applyWindow windows e.1 e.2 with
    | (.error f, warnings) => (.error f, warnings)
    | (.ok windows, warnings) =>
      let (result, more) := applyWindows es windows
      (result, warnings ++ more)

/-- The settings with the windows of the file. -/
def readWindows (entries : List (Document × Document)) (s : Settings) :
    Except Fault Settings × List Log.Record :=
  match Document.field? "staleness_windows" entries with
  | none | some .null => (.ok s, [])
  | some (.map es) =>
    let (result, warnings) := applyWindows es s.windows
    (result.map fun windows => { s with windows }, warnings)
  | some _ => (.ok s, [warn "staleness_windows must be a mapping of status -> minutes, ignoring"])

/-! ## The whole file -/

/-- The settings with an interval above zero. -/
def withInterval (s : Settings) : Except Fault Settings × List Log.Record :=
  if 0 < s.cleanupInterval then (.ok s, [])
  else if Text.isWritable s.cleanupInterval then
    let default : Settings := {}
    (.ok { s with cleanupInterval := default.cleanupInterval },
      [warn ("cleanup_interval_minutes must be positive, got " ++ toString s.cleanupInterval ++
        ". Using default " ++ toString default.cleanupInterval)])
  else (.error .unwritable, [])

/-- The settings with what the entries of a file set. -/
def apply (entries : List (Document × Document)) (s : Settings) :
    Except Fault Settings × List Log.Record :=
  match applyIntegers entries IntegerKey.all s with
  | (.error f, warnings) => (.error f, warnings)
  | (.ok s, warnings) =>
    match applyTexts entries TextKey.all s with
    | .error f => (.error f, warnings)
    | .ok s =>
      match readWindows entries s with
      | (.error f, more) => (.error f, warnings ++ more)
      | (.ok s, more) =>
        let (result, last) := withInterval s
        (result, warnings ++ more ++ last)

/-- The entries of a document. Null has none. -/
def entriesOf (path : String) : Document → List (Document × Document) × List Log.Record
  | .map es => (es, [])
  | .null => ([], [])
  | _ => ([], [warn ("Config file " ++ path ++ " must contain a mapping, using defaults")])

/-- The document in a file. A file that holds none counts as empty. -/
def readFile (path : String) : FileState → Except Fault Document × List Log.Record
  | .missing => (.ok .null, [warn ("Config file " ++ path ++ " not found, using defaults")])
  | .unreadable => (.ok .null, [unread])
  | .holds bytes =>
    match String.fromUTF8? bytes with
    | none => (.error .notText, [])
    | some s => match Document.Yaml.read? s with
      | .ok d => (.ok d, [])
      | .error .unreadable => (.ok .null, [unread])
      | .error p => (.error (.badValue p), [])
where
  /-- The warning about a file that cannot be read. -/
  unread := warn ("Could not read config file " ++ path ++ ". Using defaults")

/-- The settings with what the file at a path sets. Without a path there is no file. -/
def load (s : Settings) (path : Option String) (file : FileState) :
    Except Fault Settings × List Log.Record :=
  match path with
  | none | some "" => (.ok s, [])
  | some path =>
    match readFile path file with
    | (.error f, warnings) => (.error f, warnings)
    | (.ok d, warnings) =>
      let (entries, more) := entriesOf path d
      let (result, last) := apply entries s
      (result, warnings ++ more ++ last)

end FlowWarden.Settings
