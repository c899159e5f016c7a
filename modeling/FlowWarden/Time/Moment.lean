import FlowWarden.Time.Calendar
import FlowWarden.Time.Duration
import FlowWarden.Text.Integer
/-!
# Moments

A moment is a reading of a calendar clock to the microsecond, within the years 1 to 9999. It may
say how far its clock is ahead of universal time. Only moments that both say so, or both do not,
can be compared and subtracted; those that do are compared as instants.
-/

namespace FlowWarden

/-- A clock reading. -/
structure Moment where
  /-- Microseconds from the start of year 1 on the clock itself. -/
  clock : Int
  /-- Seconds that the clock is ahead of universal time, if that is known. -/
  offset : Option Int
  lower : 0 ≤ clock := by omega
  upper : clock < 3652059 * 86400000000 := by omega
deriving DecidableEq, Repr

namespace Moment

/-- The first moment that cannot be read any more. -/
def limit : Int := 3652059 * 86400000000

def day : Nat := 24 * Duration.hour

/-- A reading of the clock, if it lies in the years that have dates. -/
def ofClock? (clock : Int) (offset : Option Int) : Option Moment :=
  if h : 0 ≤ clock ∧ clock < 3652059 * 86400000000 then some ⟨clock, offset, h.1, h.2⟩ else none

/-- The microseconds of universal time, where the clock says how far it is ahead. -/
def instant (m : Moment) : Int :=
  m.clock - m.offset.getD 0 * Duration.second

/-- Whether two moments can be compared: both know their offset or neither does. -/
def comparable (a b : Moment) : Bool :=
  a.offset.isSome == b.offset.isSome

/-- The microseconds from `b` to `a`, if they can be compared. -/
def sub? (a b : Moment) : Option Int :=
  if comparable a b then some (a.instant - b.instant) else none

/-- Moves a clock reading by so many microseconds. `none` where it leaves the years that have
dates. -/
def shift? (m : Moment) (micros : Int) : Option Moment :=
  ofClock? (m.clock + micros) m.offset

/-- The clock reading `hour:minute:second` and `micro` microseconds on a date. -/
def ofParts? (d : Date) (hour minute second micro : Nat) (offset : Option Int) : Option Moment :=
  if d.isValid && hour < 24 && minute < 60 && second < 60 && micro < Duration.second then
    ofClock? (d.ordinal * day + hour * Duration.hour + minute * Duration.minute +
      second * Duration.second + micro) offset
  else none

/-- An offset as `+HH:MM`, with seconds where there are some. -/
def offsetText (seconds : Int) : String :=
  let n := seconds.natAbs
  (if seconds < 0 then "-" else "+") ++ paddedDigits 2 (n / 3600) ++ ":" ++
    paddedDigits 2 (n / 60 % 60) ++ (if n % 60 = 0 then "" else ":" ++ paddedDigits 2 (n % 60))

/-- The time of day, with microseconds where there are some. -/
def timeText (m : Moment) : String :=
  let n := m.clock.toNat % day
  paddedDigits 2 (n / Duration.hour) ++ ":" ++ paddedDigits 2 (n / Duration.minute % 60) ++ ":" ++
    paddedDigits 2 (n / Duration.second % 60) ++
    (if n % Duration.second = 0 then "" else "." ++ paddedDigits 6 (n % Duration.second))

def date (m : Moment) : Date :=
  Date.ofOrdinal (m.clock.toNat / day)

/-- A moment with the given text between its date and its time. -/
def textWith (between : String) (m : Moment) : String :=
  m.date.text ++ between ++ m.timeText ++ (m.offset.elim "" offsetText)

/-- A moment as `YYYY-MM-DDTHH:MM:SS.ffffff+HH:MM`, without the parts that it lacks. -/
def text (m : Moment) : String :=
  m.textWith "T"

/-- The date and the time joined by dashes, to the second. -/
def stamp (m : Moment) : String :=
  let n := m.clock.toNat % day
  String.intercalate "-" [m.date.text, paddedDigits 2 (n / Duration.hour),
    paddedDigits 2 (n / Duration.minute % 60), paddedDigits 2 (n / Duration.second % 60)]

/-- The number that exactly `width` plain digits write, and what follows them. -/
def takeDigits (width : Nat) (cs : List Char) : Option (Nat × List Char) :=
  let ds := cs.take width
  if ds.length = width && ds.all Char.isDigit then
    some (Text.digitsValue ds, cs.drop width)
  else none

/-- One given character and what follows it. -/
def takeChar (c : Char) : List Char → Option (List Char)
  | [] => none
  | d :: cs => if d = c then some cs else none

/-- The digits after a point, read as microseconds, and what follows. -/
def takeFraction : List Char → Nat × List Char
  | '.' :: cs =>
    let ds := (cs.takeWhile Char.isDigit).take 6
    let n := Text.digitsValue ds
    (n * Nat.pow 10 (6 - ds.length), cs.dropWhile Char.isDigit)
  | cs => (0, cs)

/-- An offset up to the end of the text. -/
def readOffset? : List Char → Option (Option Int)
  | [] => some none
  | ['Z'] => some (some 0)
  | sign :: cs => do
    if sign ≠ '+' ∧ sign ≠ '-' then none
    else
      let (hours, cs) ← takeDigits 2 cs
      let cs ← takeChar ':' cs
      let (minutes, cs) ← takeDigits 2 cs
      let seconds ← match cs with
        | [] => some 0
        | _ => do
          let cs ← takeChar ':' cs
          let (seconds, cs) ← takeDigits 2 cs
          if cs.isEmpty then some seconds else none
      let n : Int := hours * 3600 + minutes * 60 + seconds
      if hours < 24 ∧ minutes < 60 ∧ seconds < 60 then
        some (some (if sign = '-' then -n else n))
      else none

/-- Reads what `text` writes. -/
def read? (s : String) : Option Moment := do
  let (year, cs) ← takeDigits 4 s.toList
  let (month, cs) ← takeDigits 2 (← takeChar '-' cs)
  let (dayOfMonth, cs) ← takeDigits 2 (← takeChar '-' cs)
  let (hour, cs) ← takeDigits 2 (← takeChar 'T' cs)
  let (minute, cs) ← takeDigits 2 (← takeChar ':' cs)
  let (second, cs) ← takeDigits 2 (← takeChar ':' cs)
  let (micro, cs) := takeFraction cs
  let offset ← readOffset? cs
  ofParts? ⟨year, month, dayOfMonth⟩ hour minute second micro offset

end Moment

end FlowWarden
