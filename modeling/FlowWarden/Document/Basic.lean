import FlowWarden.Decimal.Basic
import FlowWarden.Time.Moment
/-!
# Documents

A document is what a settings file, a cluster object or a report holds: scalars, lists, and maps
that keep the order of their entries. Cluster objects come from outside and any part of one may
be missing or of another kind, so `get?` answers only on maps and `isEmpty` tells of any document
whether it holds nothing.
-/

namespace FlowWarden

/-- A value of no fixed shape. -/
inductive Document
  | null
  | bool (b : Bool)
  | int (n : Int)
  | float (x : Float)
  | decimal (d : Decimal)
  | text (s : String)
  | date (d : Date)
  | moment (m : Moment)
  | list (items : List Document)
  | map (entries : List (Document × Document))
deriving Inhabited

namespace Document

/-- A map with texts as keys. -/
def record (fields : List (String × Document)) : Document :=
  .map (fields.map fun f => (.text f.1, f.2))

/-- A text, or null in its absence. -/
def ofText? : Option String → Document
  | some s => .text s
  | none => .null

/-- Whether a document is a text with the given characters. -/
def isText (s : String) : Document → Bool
  | .text t => t == s
  | _ => false

/-- The value of the first entry with the given text as its key. -/
def field? (key : String) (entries : List (Document × Document)) : Option Document :=
  (entries.find? fun e => e.1.isText key).map Prod.snd

/-- The value under a text key. Anything but a map has none. -/
def get? (key : String) : Document → Option Document
  | .map entries => field? key entries
  | _ => none

/-- A document that holds nothing: null, false, zero, or an empty text, list or map. -/
def isEmpty : Document → Bool
  | .null => true
  | .bool b => !b
  | .int n => n == 0
  | .float x => x == 0
  | .decimal (.finite _ c _) => c == 0
  | .decimal _ => false
  | .text s => s == ""
  | .date _ => false
  | .moment _ => false
  | .list items => items.isEmpty
  | .map entries => entries.isEmpty

/-- Replaces the value of the first entry with the given key, or adds an entry at the end. -/
def insertEntry (same : Document → Bool) (key value : Document) :
    List (Document × Document) → List (Document × Document)
  | [] => [(key, value)]
  | e :: es => if same e.1 then (e.1, value) :: es else e :: insertEntry same key value es

/-- The entries of a map with one text key set. -/
def setField (key : String) (value : Document) (entries : List (Document × Document)) :
    List (Document × Document) :=
  insertEntry (isText key) (.text key) value entries

end Document

end FlowWarden
