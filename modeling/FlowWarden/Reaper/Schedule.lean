import FlowWarden.Reaper.Service
import FlowWarden.Log.Record
/-!
# Cycles at a fixed rate

Cycles are due one interval apart. A cycle that ends after the next one is due is followed at
once, and the due times count on from that moment: cycles that were missed are not made up.

`Schedule.next` is the rule, for any kind of time. `Loop` runs it on a clock that moves only
while a cycle lasts and while the loop waits.
-/

namespace FlowWarden.Reaper

namespace Schedule

variable {T : Type} [Add T] [Sub T] [LT T] [DecidableLT T] [OfNat T 0]

/-- The next due time and the wait before it, after a cycle that was due at `due` has ended at
`finished`. `again` is the time of a second reading, taken if the cycle was late. -/
def next (interval due finished again : T) : T × T :=
  let due := due + interval
  let delay := due - finished
  if delay < 0 then (again, 0) else (due, delay)

end Schedule

/-- What happens while the loop runs. -/
inductive LoopEvent
  | cycle (start : Float)
  | shutdown (stopped : Bool)
  | wait (seconds : Float)
deriving DecidableEq

/-- How the cycles go and when the loop is stopped. -/
structure LoopScript where
  /-- Seconds between due times. -/
  interval : Float
  /-- Seconds that a cycle lasts. -/
  duration : Nat → Float
  /-- Whether a cycle fails. -/
  fails : Nat → Bool
  /-- Whether somebody shuts the reaper down during a cycle. -/
  stops : Nat → Bool
  /-- The wait during which the reaper is stopped from outside. -/
  lastWait : Nat

/-- The loop between two cycles. -/
structure Loop where
  now : Float
  due : Float
  cycles : Nat := 0
  waits : Nat := 0
  service : Service
  hasReport : Bool := false
  events : List LoopEvent := []
  log : List Log.Record := []

namespace Loop

def say (l : Loop) (level : Log.Level) (message : String) : Loop :=
  { l with log := l.log ++ [⟨level, .reaper, message⟩] }

def note (l : Loop) (e : LoopEvent) : Loop :=
  { l with events := l.events ++ [e] }

/-- The loop just after its worker was started, at a time. -/
def begin (interval : Number) (now : Float) : Loop :=
  { now, due := now
    service := (Service.start {}).2
    log := [⟨Log.info, .reaper, startedText interval⟩] }

/-- Somebody shuts the reaper down without waiting for the cycle. -/
def shutdown (l : Loop) : Loop :=
  let r := l.service.shutdown 0
  { l with service := r.service }.say Log.info shutdownText
    |>.note (.shutdown r.stopped)

/-- One cycle over a policy that monitors nothing. -/
def cycle (s : LoopScript) (l : Loop) : Loop :=
  let i := l.cycles
  let l := l.note (.cycle l.now)
  let l := { l with now := l.now + s.duration i, cycles := i + 1 }
  let l := if s.stops i then l.shutdown else l
  if s.fails i then
    l.say Log.error ("❌ Unexpected error in container cleanup loop: boom " ++ toString i)
  else
    { l with hasReport := true }.say Log.info
      "Reap cycle finished: 0 remediated, 0 skipped, 0 query errors"

/-- The wait after a cycle. -/
def wait (s : LoopScript) (l : Loop) : Loop :=
  let (due, delay) := Schedule.next s.interval l.due l.now l.now
  let l := { l.note (.wait delay) with
    due, waits := l.waits + 1, now := if l.service.stopping then l.now else l.now + delay }
  if l.waits = s.lastWait then { l with service := { l.service with stopping := true } } else l

/-- Runs the loop until it is stopped, for at most `rounds` rounds. -/
def run (s : LoopScript) : (rounds : Nat) → Loop → Loop
  | 0, l => l
  | rounds + 1, l => if l.service.stopping then l else run s rounds ((l.cycle s).wait s)

end Loop

end FlowWarden.Reaper
