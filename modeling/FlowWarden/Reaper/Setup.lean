import FlowWarden.Reaper.World
import FlowWarden.Settings.Basic
/-!
# Setting up a reaper

A reaper starts out with a policy, the time between two cycles and two grace times, each in the
unit in which an operator gives it. `Setup` holds what a reaper is set up from when its policy is
still to be made, and `Setup.ofSettings` takes that from the settings. `Setup.begin_eq_ok` says what
a reaper is like at the beginning.
-/

namespace FlowWarden.Reaper

def secondsPerMinute : Int := 60

/-- A reaper that has not done anything yet. The interval is given in minutes, the grace of a
shutdown in seconds, and the grace of developers' containers in hours. -/
def World.begin (policy : StalenessPolicy) (interval grace devPodGrace : Number) (clock : Clock) :
    Except Duration.Fault World :=
  (Duration.ofUnits Duration.hour devPodGrace).map fun devPodGrace =>
    { policy, interval := interval.scale secondsPerMinute, grace, devPodGrace, clock }

/-- What a reaper is set up from. -/
structure Setup where
  maxRunning : Number := .int (-1)
  windows : List (String × Number) := []
  interval : Number := .int 10
  grace : Number := .int 30
  devPodGrace : Number := .int 48

namespace Setup

def ofSettings (s : Settings) : Setup where
  maxRunning := .int s.maxRunning
  windows := s.windows.map fun w => (w.1, .int w.2)
  interval := .int s.cleanupInterval
  grace := .int s.shutdownGrace
  devPodGrace := .int s.devPodGrace

/-- The policy of a setup, and the warnings about its windows. -/
def policy (s : Setup) : Except Duration.Fault StalenessPolicy × List Log.Record :=
  StalenessPolicy.build s.maxRunning s.windows

def begin (s : Setup) (clock : Clock) : Except Duration.Fault World × List Log.Record :=
  let (policy, warnings) := s.policy
  (policy.bind fun policy => World.begin policy s.interval s.grace s.devPodGrace clock, warnings)

theorem begin_eq_ok {s : Setup} {clock : Clock} {w : World} :
    (s.begin clock).1 = .ok w ↔ ∃ policy devPodGrace, s.policy.1 = .ok policy ∧
      Duration.ofUnits Duration.hour s.devPodGrace = .ok devPodGrace ∧
      w = { policy, interval := s.interval.scale secondsPerMinute, grace := s.grace, devPodGrace,
            clock } := by
  unfold begin World.begin
  dsimp only
  cases s.policy.1 with
  | error f => simp [Except.bind]
  | ok policy =>
    cases Duration.ofUnits Duration.hour s.devPodGrace with
    | error f => simp [Except.bind, Except.map]
    | ok devPodGrace => simp [Except.bind, Except.map, eq_comm]

end Setup

end FlowWarden.Reaper
