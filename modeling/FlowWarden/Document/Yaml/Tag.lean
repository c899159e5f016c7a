import FlowWarden.Text.Numeral
/-!
# What a scalar is

A scalar that is neither quoted nor tagged is taken for what it looks like: a truth value, a
number, a date, null, or else a text. `Tag.ofPlain` decides, and `Stamp.read?` takes the parts of
a date apart.
-/

namespace FlowWarden.Document.Yaml

inductive Tag
  | null
  | bool
  | int
  | float
  | timestamp
  | text
  | list
  | map
  /-- A key under which a map takes the entries of others. -/
  | merge
  /-- A key that stands for the map itself. -/
  | value
  /-- A kind that no settings hold. -/
  | unknown
deriving DecidableEq, Repr

/-! ## Numbers -/

/-- The characters after digits and underscores. -/
def dropDigits (cs : List Char) : List Char :=
  cs.dropWhile fun c => c.isDigit || c == '_'

/-- What follows a plus or a minus sign, if there is one. -/
def dropSign : List Char → List Char
  | c :: cs => if c = '+' ∨ c = '-' then cs else c :: cs
  | [] => []

/-- Whether an exponent with a sign, or nothing, is left. -/
def isExponent : List Char → Bool
  | [] => true
  | e :: sign :: ds =>
    (e == 'e' || e == 'E') && (sign == '+' || sign == '-') && !ds.isEmpty && ds.all Char.isDigit
  | _ => false

/-- What follows one or more groups of a colon and a number below 60. -/
def dropSixtieths : Nat → List Char → Option (List Char)
  | 0, _ => none
  | fuel + 1, ':' :: d :: cs =>
    if !d.isDigit then none
    else
      let rest := match cs with
        | d' :: rest => if d < '6' && d'.isDigit then rest else cs
        | [] => []
      some ((dropSixtieths fuel rest).getD rest)
  | _, _ => none

def isFloat (cs : List Char) : Bool :=
  let body := dropSign cs
  let signed := body.length != cs.length
  match body with
  | '.' :: rest =>
    let special := String.ofList rest
    if special ∈ ["inf", "Inf", "INF"] then true
    else if signed then false
    else special ∈ ["nan", "NaN", "NAN"] ||
      (rest.head?.any Char.isDigit && isExponent (dropDigits rest))
  | d :: _ =>
    if !d.isDigit then false
    else match dropDigits body with
      | '.' :: rest => isExponent (dropDigits rest)
      | rest => match dropSixtieths rest.length rest with
        | some ('.' :: rest) => (dropDigits rest).isEmpty
        | _ => false
  | [] => false

def isInteger (cs : List Char) : Bool :=
  let among := fun (digits : String) (ds : List Char) => !ds.isEmpty && ds.all (digits.contains ·)
  match dropSign cs with
  | ['0'] => true
  | '0' :: 'b' :: ds => among "01_" ds
  | '0' :: 'x' :: ds => among "0123456789abcdefABCDEF_" ds
  | '0' :: ds => among "01234567_" ds
  | d :: ds =>
    if !d.isDigit then false
    else match dropDigits ds with
      | [] => true
      | rest => dropSixtieths rest.length rest == some []
  | [] => false

/-! ## Dates -/

/-- A time of day, and the offset from universal time after it. -/
structure StampTime where
  hour : Nat
  minute : Nat
  second : Nat
  /-- Microseconds. Further digits are dropped. -/
  micro : Nat
  /-- Minutes ahead of universal time. -/
  offset : Option Int

/-- The parts of a date as it is written, which the calendar need not have. -/
structure Stamp where
  year : Nat
  month : Nat
  day : Nat
  time : Option StampTime

namespace Stamp

/-- The number that at least `least` and at most `most` digits write, and what follows. -/
def number (least most : Nat) (cs : List Char) : Option (Nat × List Char) :=
  let ds := (cs.take most).takeWhile Char.isDigit
  if ds.length < least then none
  else some (Text.digitsValue ds, cs.drop ds.length)

/-- What follows a given character. -/
def after (c : Char) : List Char → Option (List Char)
  | d :: cs => if d = c then some cs else none
  | [] => none

/-- What follows blanks and tabs. -/
def dropGap (cs : List Char) : List Char :=
  cs.dropWhile fun c => c == ' ' || c == '\t'

/-- The mark between a date and a time. -/
def separator : List Char → Option (List Char)
  | 'T' :: cs => some cs
  | 't' :: cs => some cs
  | cs => if (dropGap cs).length < cs.length then some (dropGap cs) else none

/-- The offset from universal time up to the end. -/
def zone (cs : List Char) : Option (Option Int) :=
  match cs with
  | [] => some none
  | _ => match dropGap cs with
    | ['Z'] => some (some 0)
    | sign :: rest => do
      if sign ≠ '+' ∧ sign ≠ '-' then none
      else
        let (hours, rest) ← number 1 2 rest
        let minutes ← match rest with
          | [] => some 0
          | _ => do
            let (minutes, rest) ← number 2 2 (← after ':' rest)
            if rest.isEmpty then some minutes else none
        let n : Int := hours * 60 + minutes
        some (some (if sign = '-' then -n else n))
    | [] => none

/-- A time up to the end. -/
def readTime (cs : List Char) : Option StampTime := do
  let (hour, cs) ← number 1 2 cs
  let (minute, cs) ← number 2 2 (← after ':' cs)
  let (second, cs) ← number 2 2 (← after ':' cs)
  let (fraction, cs) := Text.splitPoint cs
  let ds := fraction.take 6
  let micro := Text.digitsValue ds * Nat.pow 10 (6 - ds.length)
  let offset ← zone cs
  some ⟨hour, minute, second, micro, offset⟩

/-- The parts of a date, with a time or without. -/
def read? (cs : List Char) : Option Stamp := do
  let (year, cs) ← number 4 4 cs
  let (month, cs) ← number 1 2 (← after '-' cs)
  let (day, cs) ← number 1 2 (← after '-' cs)
  if cs.isEmpty then some ⟨year, month, day, none⟩
  else
    let time ← readTime (← separator cs)
    some ⟨year, month, day, some time⟩

end Stamp

/-- Whether characters write a date. Without a time, the month and the day have two digits. -/
def isTimestamp (cs : List Char) : Bool :=
  match Stamp.read? cs with
  | some s => s.time.isSome || cs.length == 10
  | none => false

/-! ## Words -/

/-- The words for a truth value, in small letters. -/
def truthWords : List (String × Bool) :=
  [("yes", true), ("no", false), ("true", true), ("false", false), ("on", true), ("off", false)]

/-- A word in small letters, as a name, and in capital letters. -/
def spellings (word : String) : List String :=
  [word, word.capitalize, word.map Char.toUpper]

/-- What a plain scalar is. -/
def Tag.ofPlain (s : String) : Tag :=
  let cs := s.toList
  if truthWords.any fun w => spellings w.1 |>.contains s then .bool
  else if isFloat cs then .float
  else if isInteger cs then .int
  else if s = "<<" then .merge
  else if s = "" ∨ s = "~" ∨ s ∈ spellings "null" then .null
  else if isTimestamp cs then .timestamp
  else if s = "=" then .value
  else if s ∈ ["!", "&", "*"] then .unknown
  else .text

/-- The start of the tags that all settings share. -/
def commonTags : String := "tag:yaml.org,2002:"

/-- The kind that a tag names. The tags `binary`, `set`, `omap` and `pairs` name values that no document
holds and count as unknown: a text with one of them is refused as a whole. -/
def Tag.ofName (name : String) : Tag :=
  let named := [("null", Tag.null), ("bool", .bool), ("int", .int), ("float", .float),
    ("timestamp", .timestamp), ("str", .text), ("seq", .list), ("map", .map),
    ("merge", .merge), ("value", .value)]
  ((named.find? fun t => commonTags ++ t.1 == name).map Prod.snd).getD .unknown

end FlowWarden.Document.Yaml
