import FlowWarden.Number
/-!
# The worker of the reaper

Cycles run on a worker thread. `Service` holds every worker that was started, which of them the
reaper holds on to, and two flags: `stopping` ends the loop after the current cycle, `cancelling`
ends the current cycle early.

`start` starts a worker unless one is alive. `shutdown` raises the first flag, waits for the
worker, raises the second flag if it is still alive and waits once more; it answers whether no
worker is left.
-/

namespace FlowWarden.Reaper

/-- What the log says when a worker has been started. `interval` is the number of seconds from one
cycle to the next. -/
def startedText (interval : Number) : String :=
  "✅ Started container cleanup service (interval: " ++ interval.text ++ "s)"

def shutdownText : String :=
  "Shutdown container cleanup service"

/-- How a worker ends. -/
structure WorkerScript where
  /-- Seconds of waiting until it ends by itself. `none` if it never does. -/
  busy : Option Float
  /-- Whether it also ends when it is waited for while the cycle is being cancelled. -/
  endsOnCancel : Bool

structure Worker where
  script : WorkerScript
  alive : Bool

/-- Waits for a worker for so many seconds. -/
def Worker.join (cancelling : Bool) (seconds : Float) (w : Worker) : Worker :=
  let busy := w.script.busy.map fun b => b - seconds
  let ends := (busy.any fun b => decide (b ≤ 0)) || (w.script.endsOnCancel && cancelling)
  ⟨{ w.script with busy }, w.alive && !ends⟩

/-- The workers and the flags that they watch. -/
structure Service where
  /-- How the workers that are still to be started end. -/
  scripts : List WorkerScript := []
  /-- The workers that were started, in order. -/
  workers : List Worker := []
  /-- The place in `workers` of the worker that the reaper holds on to. -/
  held : Option Nat := none
  stopping : Bool := false
  cancelling : Bool := false

namespace Service

def isAlive (s : Service) (i : Nat) : Bool :=
  (s.workers[i]?).any Worker.alive

/-- Whether the reaper holds on to a living worker. -/
def isRunning (s : Service) : Bool :=
  s.held.any s.isAlive

/-- How a worker ends about which nothing was said: at the first wait. -/
def defaultScript : WorkerScript := ⟨some 0, false⟩

/-- Starts a worker if none is running, and says whether it did. -/
def start (s : Service) : Bool × Service :=
  if s.isRunning then (false, s)
  else
    (true, { s with
      scripts := s.scripts.drop 1
      workers := s.workers ++ [⟨s.scripts.head?.getD defaultScript, true⟩]
      held := some s.workers.length
      stopping := false
      cancelling := false })

def join (s : Service) (i : Nat) (seconds : Float) : Service :=
  { s with workers := s.workers.modify i (Worker.join s.cancelling seconds) }

/-- How long a shutdown waits for a cancelled cycle, in seconds. -/
def cancelGrace : Float := 1

/-- What a shutdown did. -/
structure Shutdown where
  /-- Whether no worker is left. -/
  stopped : Bool
  /-- Whether the cycle had to be cancelled. -/
  forced : Bool
  /-- The waits, in seconds. -/
  joins : List Float
  service : Service

/-- The end of a shutdown: a worker that is gone is let go. -/
def settle (s : Service) (i : Nat) (forced : Bool) (joins : List Float) : Shutdown :=
  if s.isAlive i then ⟨false, forced, joins, s⟩
  else ⟨true, forced, joins, { s with held := none, cancelling := false }⟩

/-- Stops the worker, waiting so many seconds before its cycle is cancelled. -/
def shutdown (grace : Float) (s : Service) : Shutdown :=
  let s := { s with stopping := true }
  match s.held with
  | none => ⟨true, false, [], s⟩
  | some i =>
    let s := s.join i grace
    if s.isAlive i then
      ({ s with cancelling := true }.join i cancelGrace).settle i true [grace, cancelGrace]
    else s.settle i false [grace]

/-- The worker that was started last ends. -/
def exitLast (s : Service) : Service :=
  { s with workers := s.workers.modify (s.workers.length - 1) fun w => { w with alive := false } }

end Service

end FlowWarden.Reaper
