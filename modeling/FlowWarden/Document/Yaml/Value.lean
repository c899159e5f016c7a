import FlowWarden.Binary64.Reader
import FlowWarden.Document.Literal
import FlowWarden.Document.Yaml.Cursor
import FlowWarden.Document.Yaml.Tag
/-!
# The values of scalars

What a scalar of a known kind stands for. A scalar that only looks like its kind may have no
value: the calendar lacks the date, or a tag says a kind that the text is not of.
-/

namespace FlowWarden.Document.Yaml

def withoutUnderscores (s : String) : String :=
  String.ofList (s.toList.filter (· ≠ '_'))

/-- The parts of a text between colons. -/
def colonParts (s : String) : List String :=
  (s.splitToList (· == ':'))

/-- The text of the problem of a wrong integer. -/
def notAnInteger (base : Nat) (s : String) : Problem :=
  .invalidValue ("invalid literal for int() with base " ++ toString base ++ ": " ++
    String.ofList ((Text.quoted s).toList.take 200))

/-- An integer in decimal digits. -/
def decimalInteger (s : String) : Except Problem Int :=
  match Text.readInteger s with
  | some n => .ok n
  | none =>
    match Text.integerWidth? s with
    | some width =>
      .error (.invalidValue ("Exceeds the limit (" ++ toString Text.maxIntegerDigits ++
        " digits) for integer string conversion: value has " ++ toString width ++
        " digits; use sys.set_int_max_str_digits() to increase the limit"))
    | none => .error (notAnInteger 10 s)

def basedInteger (base : Nat) (s : String) : Except Problem Int :=
  match Text.readIntegerIn base s with
  | some n => .ok n
  | none => .error (notAnInteger base s)

def takeSign (s : String) : Bool × String :=
  let (negative, cs) := Text.splitSign s.toList
  (negative, String.ofList cs)

/-- The value of an integer. Parts between colons count in sixties. -/
def integerValue (s : String) : Except Problem Int := do
  let (negative, s) := takeSign (withoutUnderscores s)
  let n ←
    match s.toList with
    | [] => throw .emptyNumber
    | ['0'] => pure 0
    | '0' :: 'b' :: ds => basedInteger 2 (String.ofList ds)
    | '0' :: 'x' :: ds => basedInteger 16 (String.ofList ds)
    | '0' :: _ => basedInteger 8 s
    | cs =>
      if cs.contains ':' then do
        let ns ← (colonParts s).mapM decimalInteger
        pure (ns.foldl (fun n d => 60 * n + d) 0)
      else decimalInteger s
  pure (if negative then -n else n)

def decimalFloat (s : String) : Except Problem Float :=
  match Binary64.read? s with
  | some x => .ok x
  | none => .error (.invalidValue ("could not convert string to float: " ++ Text.quoted s))

/-- The sum of the parts of a float, the last first, each counting sixty times the one before. -/
def sixtiethsFloat (xs : List Float) : Float :=
  (xs.reverse.foldl (fun (p : Int × Float) x => (60 * p.1, p.2 + x * Binary64.ofInt p.1)) (1, 0)).2

def floatValue (s : String) : Except Problem Float := do
  let (negative, s) := takeSign (String.ofList ((withoutUnderscores s).toList.map Char.toLower))
  let x ←
    if s = "" then throw .emptyNumber
    else if s = ".inf" then pure Binary64.infinity
    else if s = ".nan" then pure Binary64.nan
    else if s.contains ':' then do
      let xs ← (colonParts s).mapM decimalFloat
      pure (sixtiethsFloat xs)
    else decimalFloat s
  pure (if negative then -x else x)

/-- A date of the calendar. -/
def dateValue (s : Stamp) : Except Problem Date :=
  let d : Date := ⟨s.year, s.month, s.day⟩
  if d.isValid then .ok d
  else .error (.invalidValue
    (if s.year < minYear ∨ maxYear < s.year then
      "year " ++ toString s.year ++ " is out of range"
    else if s.month < 1 ∨ 12 < s.month then "month must be in 1..12"
    else "day is out of range for month"))

/-- A length of time as messages show it. -/
def durationLiteral (minutes : Int) : String :=
  let days := minutes / 1440
  let rest := minutes % 1440
  let dayPart := if days = 0 then [] else ["days=" ++ toString days]
  let restPart := if rest = 0 then [] else ["seconds=" ++ toString (rest * 60)]
  "datetime.timedelta(" ++ String.intercalate ", " (dayPart ++ restPart) ++ ")"

/-- An offset from universal time in seconds, less than a day either way. -/
def offsetValue (minutes : Int) : Except Problem Int :=
  if -1440 < minutes ∧ minutes < 1440 then .ok (minutes * 60)
  else .error (.invalidValue ("offset must be a timedelta strictly between " ++
    "-timedelta(hours=24) and timedelta(hours=24), not " ++ durationLiteral minutes ++ "."))

/-- A date and a time of day. -/
def momentValue (s : Stamp) (t : StampTime) : Except Problem Moment := do
  let offset ← t.offset.mapM offsetValue
  let d ← dateValue s
  match Moment.ofParts? d t.hour t.minute t.second t.micro offset with
  | some m => pure m
  | none => throw (.invalidValue
      (if 24 ≤ t.hour then "hour must be in 0..23"
      else if 60 ≤ t.minute then "minute must be in 0..59"
      else "second must be in 0..59"))

/-- The value of a date, with a time or without. -/
def timestampValue (s : String) : Except Problem Document :=
  match Stamp.read? s.toList with
  | none => .error .notADate
  | some stamp =>
    match stamp.time with
    | none => (dateValue stamp).map .date
    | some t => (momentValue stamp t).map .moment

def truthValue (s : String) : Except Problem Bool :=
  match truthWords.lookup (s.map Char.toLower) with
  | some b => .ok b
  | none => .error .unknownTruthValue

/-- What a scalar of a kind stands for. -/
def scalarValue (tag : Tag) (s : String) : Except Problem Document :=
  match tag with
  | .null => .ok .null
  | .bool => (truthValue s).map .bool
  | .int => (integerValue s).map .int
  | .float => (floatValue s).map .float
  | .timestamp => timestampValue s
  | .text => .ok (.text s)
  | .list | .map | .merge | .value | .unknown => .error .unreadable

end FlowWarden.Document.Yaml
