import FlowWarden.Reaper.Schedule
import Mathlib.Algebra.Order.Group.Basic
import Mathlib.Algebra.Order.Group.Int
/-!
# The pace of the cycles

A cycle that ends after the next one is due moves all later due times. For exact times, whatever the
cycles and the waits are like, `cycles_paced` says what follows: no wait is longer than the interval,
cycles are an interval apart at least, counted from the times at which they are due, and what a slow
cycle has cost is not made up. Only the stop flag ends the loop.

`turns` is the loop for any kind of time and any clock. That the loop which runs on a simulated clock
is an instance of it is a part of the statement.
-/

namespace FlowWarden.Reaper

namespace Schedule

/-! ## Rounds -/

/-- What the loop meets in one round: a cycle, the readings after it, and the wait. -/
structure Round (T : Type) where
  /-- When the cycle starts. -/
  started : T
  /-- What the failure says, if the cycle fails. -/
  failure : Option String
  /-- The reading after the cycle. -/
  finished : T
  /-- The second reading, taken if the cycle was late. -/
  again : T
  /-- When the wait ends. -/
  woken : T
  /-- Whether the loop sees the stop flag after the wait. -/
  stopped : Bool

/-- What the loop makes of a round. -/
structure Turn (T : Type) where
  due : T
  round : Round T
  /-- The wait that is asked for. -/
  delay : T

/-- What is logged of a cycle that fails. -/
def Round.complaint {T : Type} (r : Round T) : Option Log.Record :=
  r.failure.map fun text =>
    ⟨Log.error, .reaper, "❌ Unexpected error in container cleanup loop: " ++ text⟩

section

variable {T : Type} [Add T] [Sub T] [LT T] [DecidableLT T] [OfNat T 0]

/-- The rounds that the loop runs, the first of which is due at a given time. It goes on until it sees
the stop flag; a cycle that fails counts as any other. -/
def turns (interval : T) : (due : T) → (stopped : Bool) → List (Round T) → List (Turn T)
  | _, _, [] => []
  | due, stopped, r :: rs =>
    if stopped then []
    else
      let (due', delay) := next interval due r.finished r.again
      ⟨due, r, delay⟩ :: turns interval due' r.stopped rs

/-- The last reading before the wait. -/
def Round.lastReading (interval due : T) (r : Round T) : T :=
  if due + interval - r.finished < 0 then r.again else r.finished

/-- The clock does not go back, and the wait is as long as it is asked to be unless the stop flag
ends it. -/
structure Round.Timely [LE T] (interval due now : T) (r : Round T) : Prop where
  started : now ≤ r.started
  finished : r.started ≤ r.finished
  read : r.finished ≤ r.lastReading interval due
  woken : r.lastReading interval due ≤ r.woken
  waited : r.stopped = false →
    r.lastReading interval due + (next interval due r.finished r.again).2 ≤ r.woken

/-- All rounds that the loop runs are timely. `now` is the last time that is known. -/
def Timely [LE T] (interval : T) : (due now : T) → (stopped : Bool) → List (Round T) → Prop
  | _, _, _, [] => True
  | due, now, stopped, r :: rs => stopped = false →
    r.Timely interval due now ∧
      Timely interval (next interval due r.finished r.again).1 r.woken r.stopped rs

theorem turns_stopped (interval due : T) (rounds : List (Round T)) :
    turns interval due true rounds = [] := by
  cases rounds <;> rfl

theorem turns_cons (interval due : T) (r : Round T) (rs : List (Round T)) :
    turns interval due false (r :: rs) = ⟨due, r, (next interval due r.finished r.again).2⟩ ::
      turns interval (next interval due r.finished r.again).1 r.stopped rs := rfl

theorem stopped_of_getElem? {interval due : T} {stopped : Bool} {rounds : List (Round T)} {k : Nat}
    {t : Turn T} (ht : (turns interval due stopped rounds)[k]? = some t) : stopped = false := by
  cases stopped with
  | false => rfl
  | true =>
    rw [turns_stopped] at ht
    cases ht

/-- Each wait is the one that the rule asks for. -/
theorem delay_of_mem {interval due : T} {stopped : Bool} {rounds : List (Round T)} {t : Turn T}
    (ht : t ∈ turns interval due stopped rounds) :
    t.delay = (next interval t.due t.round.finished t.round.again).2 := by
  induction rounds generalizing due stopped with
  | nil => cases ht
  | cons r rs ih =>
    cases stopped with
    | true => cases ht
    | false =>
      rw [turns_cons] at ht
      rcases List.mem_cons.1 ht with rfl | ht
      · rfl
      · exact ih ht

/-- The loop runs the rounds in order, up to the first after which it sees the stop flag. -/
theorem getElem?_turns (interval due : T) (stopped : Bool) (rounds : List (Round T)) (k : Nat) :
    ((turns interval due stopped rounds)[k]?).map Turn.round =
      if stopped = false ∧ ∀ r ∈ rounds.take k, r.stopped = false then rounds[k]? else none := by
  induction rounds generalizing due stopped k with
  | nil => simp [turns]
  | cons r rs ih =>
    cases stopped with
    | true => simp [turns_stopped]
    | false =>
      rw [turns_cons]
      cases k with
      | zero => simp
      | succ k =>
        rw [List.getElem?_cons_succ, ih]
        simp

end

/-! ## One round -/

section

variable {T : Type} [AddCommGroup T] [LinearOrder T] [IsOrderedAddMonoid T]
  {interval due now : T} {stopped : Bool} {r : Round T} {rounds : List (Round T)}

/-- A round is late or on time. -/
theorem next_cases (interval due : T) (r : Round T) :
    (due + interval < r.finished ∧ next interval due r.finished r.again = (r.again, 0) ∧
        r.lastReading interval due = r.again) ∨
      (r.finished ≤ due + interval ∧
        next interval due r.finished r.again = (due + interval, due + interval - r.finished) ∧
        r.lastReading interval due = r.finished) := by
  unfold next Round.lastReading
  by_cases h : due + interval - r.finished < 0
  · exact .inl ⟨sub_neg.1 h, if_pos h, if_pos h⟩
  · exact .inr ⟨sub_nonneg.1 (not_lt.1 h), if_neg h, if_neg h⟩

theorem next_delay (interval due : T) (r : Round T) :
    (next interval due r.finished r.again).2 = max 0 (due + interval - r.finished) := by
  rcases next_cases interval due r with ⟨hlate, hnext, -⟩ | ⟨hontime, hnext, -⟩
  · rw [hnext, max_eq_left (sub_nonpos.2 hlate.le)]
  · rw [hnext, max_eq_right (sub_nonneg.2 hontime)]

namespace Round.Timely

/-- The next cycle is due an interval later at least. -/
theorem due_add_le (h : r.Timely interval due now) :
    due + interval ≤ (next interval due r.finished r.again).1 := by
  rcases next_cases interval due r with ⟨hlate, hnext, hread⟩ | ⟨-, hnext, -⟩
  · rw [hnext, ← hread]
    exact hlate.le.trans h.read
  · rw [hnext]

theorem due_add_nsmul_le (h : r.Timely interval due now) (k : Nat) :
    due + (k + 1) • interval ≤ (next interval due r.finished r.again).1 + k • interval := by
  rw [succ_nsmul', ← add_assoc]
  exact add_le_add_left h.due_add_le _

/-- The next cycle is not due before this one has ended. -/
theorem finished_le_due (h : r.Timely interval due now) :
    r.finished ≤ (next interval due r.finished r.again).1 := by
  rcases next_cases interval due r with ⟨-, hnext, hread⟩ | ⟨hontime, hnext, -⟩
  · rw [hnext, ← hread]
    exact h.read
  · rwa [hnext]

/-- The loop does not wake up before the next cycle is due. -/
theorem due_le_woken (h : r.Timely interval due now) (hgoes : r.stopped = false) :
    (next interval due r.finished r.again).1 ≤ r.woken := by
  have hwaited := h.waited hgoes
  rcases next_cases interval due r with ⟨-, hnext, hread⟩ | ⟨-, hnext, hread⟩
  · rw [hnext, ← hread]
    exact h.woken
  · rw [hnext, hread, add_sub_cancel] at hwaited
    rwa [hnext]

end Round.Timely

/-! ## The whole loop -/

/-- The time of each cycle is bounded by the time at which the first one is due. -/
theorem Timely.due_le_started (h : Timely interval due now stopped rounds) (hdue : due ≤ now)
    {k : Nat} {t : Turn T} (ht : (turns interval due stopped rounds)[k]? = some t) :
    due + k • interval ≤ t.round.started := by
  -- What is left of the loop after a round starts like a whole one: it wakes up at the next due time
  -- or later, and that lies an interval further on at least.
  induction rounds generalizing due now stopped k with
  | nil => cases ht
  | cons r rs ih =>
    obtain rfl := stopped_of_getElem? ht
    obtain ⟨hr, hrs⟩ := h rfl
    rw [turns_cons] at ht
    cases k with
    | zero =>
      obtain rfl := Option.some.inj ht
      rw [zero_nsmul, add_zero]
      exact hdue.trans hr.started
    | succ k =>
      rw [List.getElem?_cons_succ] at ht
      have hwoken := hr.due_le_woken (stopped_of_getElem? ht)
      exact (hr.due_add_nsmul_le k).trans (ih hrs hwoken ht)

/-- From each of its turns on, the loop is one that starts there. -/
theorem Timely.suffix (h : Timely interval due now stopped rounds) (hdue : due ≤ now) {j : Nat}
    {t : Turn T} (ht : (turns interval due stopped rounds)[j]? = some t) :
    ∃ now' rs, t.due ≤ now' ∧ Timely interval t.due now' false (t.round :: rs) ∧
      (turns interval due stopped rounds).drop j = turns interval t.due false (t.round :: rs) := by
  induction rounds generalizing due now stopped j with
  | nil => cases ht
  | cons r rs ih =>
    obtain rfl := stopped_of_getElem? ht
    cases j with
    | zero =>
      obtain rfl := Option.some.inj ht
      exact ⟨now, rs, hdue, h, rfl⟩
    | succ j =>
      obtain ⟨hr, hrs⟩ := h rfl
      rw [turns_cons, List.getElem?_cons_succ] at ht
      exact ih hrs (hr.due_le_woken (stopped_of_getElem? ht)) ht

/-- The pace of a loop whose first reading is `t₀`. -/
structure Paced (interval t₀ : T) (stopped : Bool) (rounds : List (Round T)) : Prop where
  delay : ∀ t ∈ turns interval t₀ stopped rounds, 0 ≤ t.delay ∧ t.delay ≤ interval
  /-- After a cycle that has used up its slot there is no wait. -/
  late : ∀ t ∈ turns interval t₀ stopped rounds,
    t.due + interval ≤ t.round.finished → t.delay = 0
  started : ∀ (k : Nat) (t : Turn T), (turns interval t₀ stopped rounds)[k]? = some t →
    t₀ + k • interval ≤ t.round.started
  /-- Missed cycles are not made up: from any cycle on, be it late, the others keep their distance. -/
  apart : ∀ (j k : Nat) (t t' : Turn T), (turns interval t₀ stopped rounds)[j]? = some t →
    (turns interval t₀ stopped rounds)[j + (k + 1)]? = some t' →
    t.due + (k + 1) • interval ≤ t'.round.started ∧
      t.round.finished + k • interval ≤ t'.round.started
  /-- A cycle takes place unless the loop has seen the stop flag before, and whether or not any of
  the earlier ones have failed. -/
  goesOn : ∀ k, ((turns interval t₀ stopped rounds)[k]?).map Turn.round =
    if stopped = false ∧ ∀ r ∈ rounds.take k, r.stopped = false then rounds[k]? else none

theorem Timely.delay_le (h0 : 0 ≤ interval) (h : Timely interval due now stopped rounds)
    (hdue : due ≤ now) {t : Turn T} (ht : t ∈ turns interval due stopped rounds) :
    t.delay ≤ interval := by
  obtain ⟨j, hj⟩ := List.mem_iff_getElem?.1 ht
  obtain ⟨now', rs, hdue', hsuffix, -⟩ := h.suffix hdue hj
  obtain ⟨hr, -⟩ := hsuffix rfl
  have hfinished : t.due ≤ t.round.finished := hdue'.trans (hr.started.trans hr.finished)
  rw [delay_of_mem ht, next_delay]
  refine max_le h0 (sub_le_iff_le_add'.2 ?_)
  exact add_le_add_left hfinished interval

theorem Timely.apart (h : Timely interval due now stopped rounds) (hdue : due ≤ now) {j k : Nat}
    {t t' : Turn T} (ht : (turns interval due stopped rounds)[j]? = some t)
    (ht' : (turns interval due stopped rounds)[j + (k + 1)]? = some t') :
    t.due + (k + 1) • interval ≤ t'.round.started ∧
      t.round.finished + k • interval ≤ t'.round.started := by
  obtain ⟨now', rs, hdue', hsuffix, hdrop⟩ := h.suffix hdue ht
  obtain ⟨hr, hrs⟩ := hsuffix rfl
  rw [← List.getElem?_drop, hdrop, turns_cons, List.getElem?_cons_succ] at ht'
  have hwoken := hr.due_le_woken (stopped_of_getElem? ht')
  have hstarted := hrs.due_le_started hwoken ht'
  exact ⟨(hr.due_add_nsmul_le k).trans hstarted,
    (add_le_add_left hr.finished_le_due _).trans hstarted⟩

theorem Timely.paced {t₀ : T} (h0 : 0 ≤ interval) (h : Timely interval t₀ t₀ stopped rounds) :
    Paced interval t₀ stopped rounds where
  delay := by
    intro t ht
    refine ⟨?_, h.delay_le h0 le_rfl ht⟩
    rw [delay_of_mem ht, next_delay]
    exact le_max_left _ _
  late := by
    intro t ht hlate
    rw [delay_of_mem ht, next_delay, max_eq_left (sub_nonpos.2 hlate)]
  started := fun k t ht => h.due_le_started le_rfl ht
  apart := fun j k t t' ht ht' => h.apart le_rfl ht ht'
  goesOn := getElem?_turns interval t₀ stopped rounds

end

end Schedule

/-! ## The loop on a simulated clock -/

/-- A turn as the loop on the simulated clock notes it. -/
def Schedule.Turn.events (t : Schedule.Turn Float) : List LoopEvent :=
  [.cycle t.round.started, .wait t.delay]

/-- Whether an event is a cycle or a wait. -/
def LoopEvent.isPace : LoopEvent → Bool
  | .cycle _ | .wait _ => true
  | .shutdown _ => false

namespace Loop

/-- The cycles and the waits so far. -/
def pace (l : Loop) : List LoopEvent :=
  l.events.filter LoopEvent.isPace

/-- The errors that have been logged so far. -/
def complaints (l : Loop) : List Log.Record :=
  l.log.filter fun r => r.level == Log.error

/-- What the loop meets in its next round. -/
def round (s : LoopScript) (l : Loop) : Schedule.Round Float where
  started := l.now
  failure := if s.fails l.cycles then some ("boom " ++ toString l.cycles) else none
  finished := (l.cycle s).now
  again := (l.cycle s).now
  woken := ((l.cycle s).wait s).now
  stopped := ((l.cycle s).wait s).service.stopping

def rounds (s : LoopScript) : (rounds : Nat) → Loop → List (Schedule.Round Float)
  | 0, _ => []
  | rounds + 1, l =>
    if l.service.stopping then [] else l.round s :: Loop.rounds s rounds ((l.cycle s).wait s)

/-- The turns that the rule makes of these rounds. -/
def turns (s : LoopScript) (rounds : Nat) (l : Loop) : List (Schedule.Turn Float) :=
  Schedule.turns s.interval l.due l.service.stopping (l.rounds s rounds)

/-- What the loop does and logs is what the rule makes of its rounds. -/
structure Follows (s : LoopScript) (rounds : Nat) (l : Loop) : Prop where
  pace : (l.run s rounds).pace = l.pace ++ (l.turns s rounds).flatMap Schedule.Turn.events
  complaints : (l.run s rounds).complaints =
    l.complaints ++ (l.turns s rounds).filterMap fun t => t.round.complaint

section

variable (s : LoopScript) (l : Loop)

theorem cycle_due : (l.cycle s).due = l.due := by
  unfold cycle
  dsimp only
  split <;> split <;> rfl

theorem cycle_pace : (l.cycle s).pace = l.pace ++ [.cycle l.now] := by
  unfold cycle
  dsimp only
  split <;> split <;> simp [pace, shutdown, note, say, List.filter_cons, LoopEvent.isPace]

theorem cycle_complaints :
    (l.cycle s).complaints = l.complaints ++ (l.round s).complaint.toList := by
  have hinfo : ¬ Log.info = Log.error := by decide
  have htext (i : String) : "❌ Unexpected error in container cleanup loop: boom " ++ i =
      "❌ Unexpected error in container cleanup loop: " ++ ("boom " ++ i) := by
    rw [← String.append_assoc]
    rfl
  unfold Schedule.Round.complaint cycle round
  dsimp only
  split <;> split <;> simp [complaints, shutdown, note, say, hinfo, htext]

theorem wait_due : (l.wait s).due = (Schedule.next s.interval l.due l.now l.now).1 := by
  unfold wait
  dsimp only
  split <;> rfl

theorem wait_pace : (l.wait s).pace =
    l.pace ++ [.wait (Schedule.next s.interval l.due l.now l.now).2] := by
  unfold wait
  dsimp only
  split <;> simp [pace, note, LoopEvent.isPace]

theorem wait_complaints : (l.wait s).complaints = l.complaints := by
  unfold wait
  dsimp only
  split <;> rfl

theorem turns_succ (rounds : Nat) (h : l.service.stopping = false) :
    l.turns s (rounds + 1) =
      ⟨l.due, l.round s, (Schedule.next s.interval l.due (l.cycle s).now (l.cycle s).now).2⟩ ::
        ((l.cycle s).wait s).turns s rounds := by
  rw [turns, Loop.rounds, h, if_neg Bool.false_ne_true, Schedule.turns_cons, turns, wait_due, cycle_due]
  rfl

theorem follows (rounds : Nat) : l.Follows s rounds := by
  -- Each round appends to the events and to the log what its turn says.
  induction rounds generalizing l with
  | zero => exact ⟨(List.append_nil _).symm, (List.append_nil _).symm⟩
  | succ rounds ih =>
    cases hstop : l.service.stopping with
    | true =>
      have hrun : l.run s (rounds + 1) = l := by rw [run, if_pos hstop]
      have hturns : l.turns s (rounds + 1) = [] := by rw [turns, hstop, Schedule.turns_stopped]
      constructor
      · rw [hrun, hturns, List.flatMap_nil, List.append_nil]
      · rw [hrun, hturns, List.filterMap_nil, List.append_nil]
    | false =>
      have hrun : l.run s (rounds + 1) = ((l.cycle s).wait s).run s rounds := by
        rw [run, hstop, if_neg Bool.false_ne_true]
      obtain ⟨hpace, hcomplaints⟩ := ih ((l.cycle s).wait s)
      have hturns := l.turns_succ s rounds hstop
      constructor
      · rw [hrun, hpace, hturns, wait_pace, cycle_pace, cycle_due]
        simp [Schedule.Turn.events, round]
      · rw [hrun, hcomplaints, hturns, wait_complaints, cycle_complaints, List.append_assoc,
          List.filterMap_cons]
        cases (l.round s).complaint <;> rfl

end

end Loop

/-- However long the cycles last, and whether or not they fail, the loop keeps its pace until it sees
the stop flag; and the loop on the simulated clock follows the same rule. -/
theorem cycles_paced {T : Type} [AddCommGroup T] [LinearOrder T] [IsOrderedAddMonoid T]
    {interval t₀ : T} {stopped : Bool} {rounds : List (Schedule.Round T)} (h0 : 0 ≤ interval)
    (h : Schedule.Timely interval t₀ t₀ stopped rounds) :
    Schedule.Paced interval t₀ stopped rounds ∧
      ∀ (s : LoopScript) (n : Nat) (l : Loop), l.Follows s n :=
  ⟨h.paced h0, fun s n l => l.follows s n⟩

/-- With an interval of ten: a cycle on time, one that takes two and a half slots and fails, one
during whose wait the loop is stopped, and one that never starts. -/
def overrun : List (Schedule.Round Int) :=
  [⟨0, none, 4, 4, 10, false⟩, ⟨11, some "boom", 36, 37, 38, false⟩, ⟨38, none, 40, 40, 41, true⟩,
    ⟨50, none, 51, 51, 60, false⟩]

/-- After the cycle that failed the slots count from 37, and no longer from 0. -/
theorem overrun_paced :
    0 ≤ (10 : Int) ∧ Schedule.Timely 10 0 0 false overrun ∧
      (Schedule.turns 10 0 false overrun).map (fun t => (t.due, t.delay)) =
        [(0, 6), (10, 0), (37, 7)] ∧
      Schedule.Paced 10 0 false overrun := by
  have htimely : Schedule.Timely (10 : Int) 0 0 false overrun := by
    refine fun _ => ⟨?early, fun _ => ⟨?late, fun _ => ⟨?interrupted, fun h => ?unseen⟩⟩⟩
    case early => constructor <;> decide
    case late => constructor <;> decide
    case interrupted => constructor <;> decide
    -- Nothing is asked of a round that comes after the stop.
    case unseen => cases h
  exact ⟨by decide, htimely, by decide, (cycles_paced (by decide) htimely).1⟩

end FlowWarden.Reaper
