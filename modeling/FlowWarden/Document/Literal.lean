import FlowWarden.Decimal.Printer
import FlowWarden.Document.Basic
import FlowWarden.Text.Integer
import FlowWarden.Text.Quoted
/-!
# Documents in messages

`display` is how a message shows a document that stands by itself: a text as it is. `literal` is
how it shows one inside a list or a map, where a text is quoted and a date or a decimal number
says what it is. Neither shows a document that is not writable.
-/

namespace FlowWarden.Document

/-- An offset from universal time as a literal. -/
def offsetLiteral (seconds : Int) : String :=
  if seconds = 0 then "datetime.timezone.utc"
  else
    let days := seconds / 86400
    let rest := seconds % 86400
    let dayPart := if days = 0 then [] else ["days=" ++ toString days]
    let restPart := if rest = 0 then [] else ["seconds=" ++ toString rest]
    "datetime.timezone(datetime.timedelta(" ++ String.intercalate ", " (dayPart ++ restPart) ++ "))"

/-- A moment as a literal. Seconds and microseconds are left out where they are zero. -/
def momentLiteral (m : Moment) : String :=
  let n := m.clock.toNat % Moment.day
  let second := n / Duration.second % 60
  let micro := n % Duration.second
  let parts := [m.date.year, m.date.month, m.date.day, n / Duration.hour, n / Duration.minute % 60]
  let parts := if micro ≠ 0 then parts ++ [second, micro]
    else if second ≠ 0 then parts ++ [second] else parts
  let zone := match m.offset with
    | none => []
    | some o => ["tzinfo=" ++ offsetLiteral o]
  "datetime.datetime(" ++ String.intercalate ", " (parts.map toString ++ zone) ++ ")"

def dateLiteral (d : Date) : String :=
  "datetime.date(" ++ String.intercalate ", " ([d.year, d.month, d.day].map toString) ++ ")"

mutual

def literal : Document → String
  | .null => "None"
  | .bool b => if b then "True" else "False"
  | .int n => toString n
  | .float x => Binary64.text x
  | .decimal d => "Decimal('" ++ d.text ++ "')"
  | .text s => Text.quoted s
  | .date d => dateLiteral d
  | .moment m => momentLiteral m
  | .list items => "[" ++ String.intercalate ", " (literalItems items) ++ "]"
  | .map entries => "\x7b" ++ String.intercalate ", " (literalEntries entries) ++ "\x7d"

def literalItems : List Document → List String
  | [] => []
  | d :: ds => d.literal :: literalItems ds

def literalEntries : List (Document × Document) → List String
  | [] => []
  | (k, v) :: es => (k.literal ++ ": " ++ v.literal) :: literalEntries es

end

mutual

/-- Whether every integer in a document can be written. -/
def isWritable : Document → Bool
  | .int n => Text.isWritable n
  | .list items => writableItems items
  | .map entries => writableEntries entries
  | _ => true

def writableItems : List Document → Bool
  | [] => true
  | d :: ds => d.isWritable && writableItems ds

def writableEntries : List (Document × Document) → Bool
  | [] => true
  | (k, v) :: es => k.isWritable && v.isWritable && writableEntries es

end

/-- A document that stands by itself. -/
def display : Document → String
  | .text s => s
  | .decimal d => d.text
  | .date d => d.text
  | .moment m => m.textWith " "
  | d => d.literal

end FlowWarden.Document
