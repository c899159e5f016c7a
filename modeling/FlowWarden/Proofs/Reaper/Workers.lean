import FlowWarden.Proofs.Reaper.Cancellation
import FlowWarden.Reaper.Schedule
/-!
# The workers of the reaper

Whatever order starts, shutdowns, cycles and exits of workers come in, at most one worker is alive,
the reaper holds on to it, and the flags agree with it: `reachable_lifecycle`. A worker that a
shutdown had to abandon sees the stop flag for as long as it lives.
-/

namespace FlowWarden.Reaper

namespace Service

/-- The worker at a place ends. -/
def exit (s : Service) (i : Nat) : Service :=
  { s with workers := s.workers.modify i fun w => { w with alive := false } }

/-- Only the worker that the reaper holds on to may be alive, and a cycle is being cancelled only
while a worker is being stopped. -/
structure Sound (s : Service) : Prop where
  alive_held : ∀ i, s.isAlive i = true → s.held = some i
  cancelling : s.cancelling = true → s.stopping = true ∧ s.held.isSome = true

/-- Workers may have ended and the stop flag may have been set, but neither is undone. -/
structure Wanes (s s' : Service) : Prop where
  length : s'.workers.length = s.workers.length
  alive : ∀ i, s'.isAlive i = true → s.isAlive i = true
  stopping : s.stopping = true → s'.stopping = true

theorem Wanes.refl (s : Service) : s.Wanes s :=
  ⟨rfl, fun _ h => h, fun h => h⟩

theorem Wanes.trans {s s' s'' : Service} (h : s.Wanes s') (h' : s'.Wanes s'') : s.Wanes s'' :=
  ⟨h'.length.trans h.length, fun i hi => h.alive i (h'.alive i hi), fun hs => h'.stopping (h.stopping hs)⟩

/-! ## Workers that end -/

theorem isAlive_iff {s : Service} {i : Nat} :
    s.isAlive i = true ↔ ∃ w, s.workers[i]? = some w ∧ w.alive = true := by
  simp [isAlive, Option.any_eq_true]

/-- A change of one worker that does not bring it to life. -/
theorem isAlive_modify {s : Service} {i j : Nat} {f : Worker → Worker}
    (hf : ∀ w, (f w).alive = true → w.alive = true)
    (h : isAlive { s with workers := s.workers.modify i f } j = true) : s.isAlive j = true := by
  obtain ⟨w, hw, hlive⟩ := isAlive_iff.1 h
  rw [List.getElem?_modify] at hw
  obtain ⟨v, hv, rfl⟩ := Option.map_eq_some_iff.1 hw
  refine isAlive_iff.2 ⟨v, hv, ?_⟩
  split at hlive
  · exact hf v hlive
  · exact hlive

theorem join_alive {cancelling : Bool} {seconds : Float} {w : Worker}
    (h : (w.join cancelling seconds).alive = true) : w.alive = true := by
  simp only [Worker.join, Bool.and_eq_true] at h
  exact h.1

theorem isAlive_join {s : Service} {i j : Nat} {seconds : Float}
    (h : (s.join i seconds).isAlive j = true) : s.isAlive j = true :=
  isAlive_modify (fun _ => join_alive) h

theorem join_wanes (s : Service) (i : Nat) (seconds : Float) : s.Wanes (s.join i seconds) :=
  ⟨List.length_modify .., fun _ => isAlive_join, fun h => h⟩

theorem exit_wanes (s : Service) (i : Nat) : s.Wanes (s.exit i) :=
  ⟨List.length_modify .., fun _ => isAlive_modify (by simp), fun h => h⟩

theorem Sound.exit {s : Service} (h : s.Sound) (i : Nat) : (s.exit i).Sound :=
  ⟨fun j hj => h.alive_held j ((s.exit_wanes i).alive j hj), h.cancelling⟩

/-! ## Starts -/

theorem start_of_isRunning {s : Service} (h : s.isRunning = true) : s.start = (false, s) := by
  rw [start, if_pos h]

/-- A start that starts a worker adds it at the end and clears the flags. -/
theorem start_of_not_isRunning {s : Service} (h : s.isRunning = false) :
    ∃ scripts script, s.start = (true, { scripts, workers := s.workers ++ [⟨script, true⟩]
                                         held := some s.workers.length }) := by
  rw [start, if_neg (by simp [h])]
  exact ⟨_, _, rfl⟩

theorem Sound.isAlive_eq_false {s : Service} (h : s.Sound) (hr : s.isRunning = false) (i : Nat) :
    s.isAlive i = false := by
  rw [← Bool.not_eq_true]
  intro hi
  rw [isRunning, h.alive_held i hi, Option.any_some, hi] at hr
  cases hr

theorem isAlive_append {s : Service} {script : WorkerScript} {i : Nat} :
    isAlive { s with workers := s.workers ++ [⟨script, true⟩] } i =
      (s.isAlive i || i == s.workers.length) := by
  unfold isAlive
  rcases Nat.lt_or_ge i s.workers.length with hlt | hge
  · simp [List.getElem?_append_left hlt, Nat.ne_of_lt hlt]
  · rw [List.getElem?_append_right hge, List.getElem?_eq_none hge]
    by_cases hi : i = s.workers.length
    · simp [hi]
    · have hn : i - s.workers.length ≠ 0 := by omega
      simp [hi, hn]

theorem Sound.start {s : Service} (h : s.Sound) : s.start.2.Sound := by
  cases hr : s.isRunning with
  | true => rwa [start_of_isRunning hr]
  | false =>
    obtain ⟨scripts, script, hs⟩ := start_of_not_isRunning hr
    rw [hs]
    refine ⟨fun i hi => ?_, fun hc => by cases hc⟩
    have hi' : (s.isAlive i || i == s.workers.length) = true := by rwa [← isAlive_append]
    rw [h.isAlive_eq_false hr i, Bool.false_or, beq_iff_eq] at hi'
    rw [hi']

/-- Where nothing runs, a start leaves the workers dead that were started before. -/
theorem Sound.start_isAlive {s : Service} (h : s.Sound) (hr : s.isRunning = false) {i : Nat}
    (hi : i < s.workers.length) : s.start.2.isAlive i = false := by
  obtain ⟨scripts, script, hs⟩ := start_of_not_isRunning hr
  rw [hs]
  show isAlive { s with workers := s.workers ++ [⟨script, true⟩] } i = false
  rw [isAlive_append, h.isAlive_eq_false hr i]
  simp [Nat.ne_of_lt hi]

/-! ## Shutdowns -/

theorem shutdown_of_none {s : Service} (h : s.held = none) (grace : Float) :
    s.shutdown grace = ⟨true, false, [], { s with stopping := true }⟩ := by
  simp [shutdown, h]

/-- A shutdown of a worker waits for it, and settles what came of it. If the worker is still alive
then, its cycle is being cancelled. -/
theorem shutdown_of_some {s : Service} {i : Nat} (h : s.held = some i) (grace : Float) :
    ∃ t forced joins, s.shutdown grace = t.settle i forced joins ∧ s.Wanes t ∧
      t.stopping = true ∧ t.held = some i ∧ (t.isAlive i = true → t.cancelling = true) := by
  obtain ⟨scripts, workers, held, stopping, cancelling⟩ := s
  obtain rfl : held = some i := h
  have hstop : Wanes ⟨scripts, workers, some i, stopping, cancelling⟩
      ⟨scripts, workers, some i, true, cancelling⟩ := ⟨rfl, fun _ hj => hj, fun _ => rfl⟩
  have hfirst := hstop.trans (join_wanes _ i grace)
  simp only [shutdown]
  split
  next =>
    refine ⟨_, _, _, rfl, hfirst.trans (Wanes.trans ?_ (join_wanes _ i cancelGrace)), rfl, rfl,
      fun _ => rfl⟩
    exact ⟨rfl, fun _ hj => hj, fun hs => hs⟩
  next hdead => exact ⟨_, _, _, rfl, hfirst, rfl, rfl, fun hi => absurd hi hdead⟩

/-- What a shutdown leaves behind. -/
structure ShutDown (s : Service) (r : Shutdown) : Prop where
  wanes : s.Wanes r.service
  stopping : r.service.stopping = true
  stopped : r.stopped = true →
    r.service.held = none ∧ r.service.cancelling = false ∧ ∀ i, r.service.isAlive i = false
  abandoned : r.stopped = false →
    r.service.held = s.held ∧ r.service.cancelling = true ∧ ∃ i, r.service.isAlive i = true

theorem Sound.shutdown {s : Service} (h : s.Sound) (grace : Float) : s.ShutDown (s.shutdown grace) := by
  cases hheld : s.held with
  | none =>
    rw [shutdown_of_none hheld]
    refine ⟨⟨rfl, fun _ hi => hi, fun _ => rfl⟩, rfl, fun _ => ⟨hheld, ?_, fun i => ?_⟩, nofun⟩
    · rw [← Bool.not_eq_true]
      intro hc
      simpa [hheld] using (h.cancelling hc).2
    · rw [← Bool.not_eq_true]
      intro hi
      simpa [hheld] using h.alive_held i hi
  | some i =>
    obtain ⟨t, forced, joins, hr, hwanes, hstopping, ht, hforced⟩ := shutdown_of_some hheld grace
    rw [hr]
    unfold settle
    split
    next halive =>
      exact ⟨hwanes, hstopping, nofun, fun _ => ⟨ht.trans hheld.symm, hforced halive, i, halive⟩⟩
    next hdead =>
      refine ⟨⟨hwanes.length, hwanes.alive, hwanes.stopping⟩, hstopping, fun _ => ⟨rfl, rfl, fun j => ?_⟩,
        nofun⟩
      -- No other worker was alive before, and this one is not alive now.
      rw [← Bool.not_eq_true]
      intro hj
      have hij : s.held = some j := h.alive_held j (hwanes.alive j hj)
      obtain rfl : i = j := by simpa [hheld] using hij
      exact hdead hj

theorem ShutDown.sound {s : Service} {r : Shutdown} (h : s.ShutDown r) (hs : s.Sound) :
    r.service.Sound := by
  cases hr : r.stopped with
  | true =>
    obtain ⟨-, hc, hdead⟩ := h.stopped hr
    refine ⟨fun i hi => ?_, fun hcancel => ?_⟩
    · rw [hdead i] at hi
      cases hi
    · rw [hc] at hcancel
      cases hcancel
  | false =>
    obtain ⟨hheld, -, i, hi⟩ := h.abandoned hr
    refine ⟨fun j hj => ?_, fun _ => ⟨h.stopping, ?_⟩⟩
    · rw [hheld]
      exact hs.alive_held j (h.wanes.alive j hj)
    · rw [hheld, hs.alive_held i (h.wanes.alive i hi)]
      rfl

theorem ShutDown.stopped_iff {s : Service} {r : Shutdown} (h : s.ShutDown r) :
    r.stopped = true ↔ ∀ i, r.service.isAlive i = false := by
  refine ⟨fun hr => (h.stopped hr).2.2, fun hdead => ?_⟩
  rw [← Bool.not_eq_false]
  intro hr
  obtain ⟨-, -, i, hi⟩ := h.abandoned hr
  rw [hdead i] at hi
  cases hi

/-- Any number of shutdowns. -/
theorem Sound.afterShutdowns {s : Service} (h : s.Sound) (gs : List Float) :
    (gs.foldl World.afterShutdown s).Sound ∧ s.Wanes (gs.foldl World.afterShutdown s) := by
  induction gs generalizing s with
  | nil => exact ⟨h, .refl s⟩
  | cons g gs ih =>
    have hone := h.shutdown g
    obtain ⟨hsound, hwanes⟩ := ih (hone.sound h)
    exact ⟨hsound, hone.wanes.trans hwanes⟩

end Service

/-! ## What can happen to the reaper -/

namespace World

/-- The worker at a place ends. -/
def exit (w : World) (i : Nat) : World :=
  { w with service := w.service.exit i }

/-- All that a cycle does to the worker are the shutdowns that happen during it. -/
theorem reapCycle_service (w : World) :
    ∃ gs : List Float, w.reapCycle.2.service = gs.foldl afterShutdown w.service := by
  unfold reapCycle
  split
  next f w₀ hstart =>
    have hread : w.readClock.2.service = w.service := rfl
    rw [hstart] at hread
    exact ⟨[], hread⟩
  next start w₀ hstart =>
    have hread : w.readClock.2.service = w.service := rfl
    rw [hstart] at hread
    obtain ⟨calls, hs⟩ := reapStatuses_steps w₀.policy.monitoredRules { startedAt := start } w₀
    obtain ⟨gs, hg⟩ := hs.made.service
    dsimp only at hg
    rw [hread] at hg
    -- The last reading of the clock leaves the worker alone, whether it fails or not.
    have hlast : (reapStatuses w₀.policy.monitoredRules { startedAt := start } w₀).2.readClock.2.service =
        (reapStatuses w₀.policy.monitoredRules { startedAt := start } w₀).2.service := rfl
    rw [hg] at hlast
    refine ⟨gs, ?_⟩
    dsimp only
    split
    next hfinish => rwa [hfinish] at hlast
    next hfinish => rwa [hfinish] at hlast

end World

/-- What can happen to the reaper. -/
inductive Event
  | start
  | shutdown (grace : Option Number) (stopped : Bool)
  /-- A whole cycle, whether it returns or not. -/
  | cycle
  /-- A single step of a cycle. -/
  | step
  /-- The worker at a place ends. -/
  | exit (place : Nat)
  /-- Anything that does not touch the workers. -/
  | other

/-- An event takes the reaper from one world to another. A cycle may be looked at as a whole or step
by step, and the shutdowns that happen during a request may be looked at one by one. -/
inductive Happens : World → Event → World → Prop
  | start (w : World) : Happens w .start w.start
  | shutdown {w w' : World} {grace : Option Number} {stopped : Bool} :
      w.shutdown grace = (stopped, w') → Happens w (.shutdown grace stopped) w'
  | cycle (w : World) : Happens w .cycle w.reapCycle.2
  | step {p q : Point} {call : Option Call} : Step p call q → Happens p.world .step q.world
  | exit (w : World) (i : Nat) : Happens w (.exit i) (w.exit i)
  | other {w w' : World} : w'.service = w.service → Happens w .other w'

/-- The worker that was started last may end like any other. -/
theorem Happens.exitWorker (w : World) :
    Happens w (.exit (w.service.workers.length - 1)) w.exitWorker :=
  .exit w _

/-- Any number of events after a world. -/
inductive Later (w : World) : World → Prop
  | refl : Later w w
  | event {w' w'' : World} {e : Event} : Later w w' → Happens w' e w'' → Later w w''

/-- A world that any number of events after a beginning without workers lead to. How the workers
end that will be started is not restricted. -/
inductive Reachable : World → Prop
  | fresh {w : World} {scripts : List WorkerScript} : w.service = { scripts } → Reachable w
  | event {w w' : World} {e : Event} : Reachable w → Happens w e w' → Reachable w'

theorem Reachable.steps {w : World} (h : Reachable w) {start : Moment} {calls : List Call} {p : Point}
    (hs : Steps (w.opening start) calls p) : Reachable p.world := by
  have hopen : Reachable (w.opening start).world := h.event (.other rfl)
  generalize w.opening start = o at hs hopen
  induction hs with
  | refl => exact hopen
  | step hstep _ ih => exact ih (hopen.event (.step hstep))

theorem Reachable.shutdowns {w : World} (h : Reachable w) (gs : List (Option Number)) :
    Reachable (gs.foldl World.shutdownNoted w) := by
  induction gs generalizing w with
  | nil => exact h
  | cons g gs ih => exact ih ((h.event (@Happens.shutdown w _ g _ rfl)).event (.other rfl))

/-- Only a start does more than end workers and set flags. -/
theorem Happens.wanes {w w' : World} {e : Event} (h : Happens w e w') (hs : w.service.Sound)
    (he : e ≠ .start) : w'.service.Sound ∧ w.service.Wanes w'.service := by
  cases h with
  | start => exact absurd rfl he
  | @shutdown _ _ grace _ heq =>
    have hservice := w.shutdown_service grace
    rw [heq] at hservice
    dsimp only at hservice
    rw [hservice]
    have hdown := hs.shutdown (grace.getD w.grace).toFloat
    exact ⟨hdown.sound hs, hdown.wanes⟩
  | cycle =>
    obtain ⟨gs, hg⟩ := w.reapCycle_service
    rw [hg]
    exact hs.afterShutdowns gs
  | step hstep =>
    obtain ⟨gs, hg⟩ := hstep.made.service
    rw [hg]
    exact hs.afterShutdowns gs
  | exit _ i => exact ⟨hs.exit i, w.service.exit_wanes i⟩
  | other heq =>
    rw [heq]
    exact ⟨hs, .refl _⟩

theorem World.start_service (w : World) : w.start.service = w.service.start.2 := by
  cases hr : w.service.isRunning with
  | true => simp [World.start, Service.start_of_isRunning hr, World.say]
  | false =>
    obtain ⟨scripts, script, hs⟩ := Service.start_of_not_isRunning hr
    simp [World.start, hs, World.say, World.note]

theorem Happens.sound {w w' : World} {e : Event} (h : Happens w e w') (hs : w.service.Sound) :
    w'.service.Sound := by
  by_cases he : e = .start
  · subst he
    cases h with
    | start =>
      rw [w.start_service]
      exact hs.start
  · exact (h.wanes hs he).1

theorem Reachable.sound {w : World} (h : Reachable w) : w.service.Sound := by
  induction h with
  | fresh hfresh =>
    rw [hfresh]
    exact ⟨fun i hi => by simp [Service.isAlive] at hi, nofun⟩
  | event _ he ih => exact he.sound ih

/-- The stop flag goes down only where a worker is started, and then none is alive. -/
theorem Happens.clears {w w' : World} {e : Event} (h : Happens w e w') (hs : w.service.Sound)
    (hstop : w.service.stopping = true) (hclear : w'.service.stopping = false) :
    e = .start ∧ ∀ i, w.service.isAlive i = false := by
  have he : e = .start := by
    by_contra he
    have hkeep := (h.wanes hs he).2.stopping hstop
    rw [hclear] at hkeep
    cases hkeep
  subst he
  refine ⟨rfl, hs.isAlive_eq_false ?_⟩
  cases h with
  | start =>
    rw [← Bool.not_eq_true]
    intro hr
    rw [w.start_service, Service.start_of_isRunning hr, hstop] at hclear
    cases hclear

/-! ## Abandoned workers -/

/-- The workers before a place see the stop flag while they live. -/
structure Leashed (n : Nat) (s : Service) : Prop where
  started : n ≤ s.workers.length
  stopping : ∀ i, i < n → s.isAlive i = true → s.stopping = true

theorem Happens.leashed {n : Nat} {w w' : World} {e : Event} (h : Happens w e w')
    (hs : w.service.Sound) (hl : Leashed n w.service) : Leashed n w'.service := by
  by_cases he : e = .start
  · subst he
    cases h with
    | start =>
      rw [w.start_service]
      cases hr : w.service.isRunning with
      | true => rwa [Service.start_of_isRunning hr]
      | false =>
        -- Nothing was alive, so the flag is cleared for the new worker alone.
        obtain ⟨scripts, script, hstart⟩ := Service.start_of_not_isRunning hr
        constructor
        · have hn := hl.started
          rw [hstart, List.length_append]
          omega
        · intro i hi halive
          rw [hs.start_isAlive hr (Nat.lt_of_lt_of_le hi hl.started)] at halive
          cases halive
  · obtain ⟨-, hwanes⟩ := h.wanes hs he
    constructor
    · rw [hwanes.length]
      exact hl.started
    · intro i hi halive
      exact hwanes.stopping (hl.stopping i hi (hwanes.alive i halive))

theorem Later.leashed {n : Nat} {w w' : World} (h : Later w w') (hs : w.service.Sound)
    (hl : Leashed n w.service) : Leashed n w'.service := by
  suffices hboth : w'.service.Sound ∧ Leashed n w'.service from hboth.2
  induction h with
  | refl => exact ⟨hs, hl⟩
  | event _ he ih => exact ⟨he.sound ih.1, he.leashed ih.1 ih.2⟩

/-- A loop that sees the stop flag does nothing any more. -/
theorem Loop.run_stopping (s : LoopScript) (rounds : Nat) {l : Loop} (h : l.service.stopping = true) :
    Loop.run s rounds l = l := by
  cases rounds with
  | zero => rfl
  | succ n => rw [Loop.run, if_pos h]

/-- A cycle from here is cut short only if somebody raises the cancel flag during one of its
requests. -/
def BeginsClear (w : World) : Prop :=
  w.cancelling = false ∧ ∀ r w', w.reapCycle = (.ok r, w') → r.cancelled = true →
    ∃ calls p c q, Steps (w.opening r.startedAt) calls p ∧ Step p (some c) q ∧
      p.world.cancelling = false ∧ q.world.cancelling = true

/-! ## The lifecycle of the workers -/

/-- What holds of the workers in a world. -/
structure Lifecycle (w : World) : Prop where
  /-- At most one worker is alive, and the reaper holds on to it. -/
  one_alive : ∀ i j, w.service.isAlive i = true → w.service.isAlive j = true → i = j
  alive_held : ∀ i, w.service.isAlive i = true → w.service.held = some i
  cancelling : w.cancelling = true → w.service.stopping = true ∧ w.service.held.isSome = true
  /-- Every point of a cycle is reached too, and every shutdown during one of its requests. -/
  inside : ∀ start calls p, Steps (w.opening start) calls p →
    ∀ u : World, u.service = p.world.service →
      ∀ gs : List (Option Number), Reachable (gs.foldl World.shutdownNoted u)
  /-- The stop flag is only cleared by a start while no worker is alive. -/
  cleared : ∀ e w', Happens w e w' → w.service.stopping = true → w'.service.stopping = false →
    e = .start ∧ ∀ i, w.service.isAlive i = false
  /-- A shutdown says whether no worker is left. -/
  stopped_iff : ∀ grace, (w.shutdown grace).1 = true ↔
    ∀ i, (w.shutdown grace).2.service.isAlive i = false
  /-- After a shutdown that succeeded, a cycle runs as if there had been none. -/
  stopped : ∀ grace w', w.shutdown grace = (true, w') →
    w'.service.held = none ∧ BeginsClear w' ∧ BeginsClear w'.start
  abandoned : ∀ grace w', w.shutdown grace = (false, w') →
    w'.service.stopping = true ∧ w'.cancelling = true ∧ w'.service.held = w.service.held
  /-- After a shutdown that failed, whatever happens, a worker that was started before it runs no
  further cycle: while it is alive, its loop sees the stop flag. -/
  idle : ∀ grace w', w.shutdown grace = (false, w') → ∀ u, Later w' u → ∀ i,
    i < w'.service.workers.length → u.service.isAlive i = true → u.service.stopping = true ∧
      ∀ s rounds l, l.service = u.service → Loop.run s rounds l = l

theorem beginsClear_of_cancelling {w : World} (h : w.cancelling = false) : BeginsClear w := by
  refine ⟨h, fun r w' hcycle hcut => ?_⟩
  obtain ⟨calls, r₀, w₁, hrun, hr, -, -⟩ := World.reapCycle_steps hcycle
  rw [hr] at hcut
  obtain ⟨before, p, c, q, hp, hstep, hclear, hset⟩ := hrun.raised h rfl hcut
  exact ⟨before, p, c, q, hp, hstep, hclear, hset⟩

theorem Later.shutdown_idle {w w' u : World} {grace : Option Number} (hs : w.service.Sound)
    (h : w.shutdown grace = (false, w')) (hu : Later w' u) {i : Nat}
    (hi : i < w'.service.workers.length) (halive : u.service.isAlive i = true) :
    u.service.stopping = true := by
  have hdown : Happens w (.shutdown grace false) w' := .shutdown h
  have hservice := w.shutdown_service grace
  rw [h] at hservice
  dsimp only at hservice
  have hstopping : w'.service.stopping = true := by
    rw [hservice]
    exact (hs.shutdown _).stopping
  exact (hu.leashed (hdown.sound hs) ⟨Nat.le_refl _, fun _ _ _ => hstopping⟩).stopping i hi halive

/-- In every world that can be reached, the workers, the held worker and the flags agree. -/
theorem reachable_lifecycle {w : World} (h : Reachable w) : Lifecycle w := by
  have hs := h.sound
  have hdown (grace : Option Number) : ∃ r, w.service.ShutDown r ∧
      (w.shutdown grace).1 = r.stopped ∧ (w.shutdown grace).2.service = r.service := by
    obtain ⟨log, hlog⟩ := World.shutdown_world grace w
    exact ⟨_, hs.shutdown _, by rw [hlog], by rw [hlog]⟩
  exact {
    one_alive := by
      intro i j hi hj
      have hij := (hs.alive_held i hi).symm.trans (hs.alive_held j hj)
      exact Option.some.inj hij
    alive_held := hs.alive_held
    cancelling := hs.cancelling
    inside := by
      intro start calls p hsteps u hu gs
      have hrequest : Reachable u := (h.steps hsteps).event (.other hu)
      exact hrequest.shutdowns gs
    cleared := fun e w' he hstop hclear => he.clears hs hstop hclear
    stopped_iff := by
      intro grace
      obtain ⟨r, hr, hstopped, hservice⟩ := hdown grace
      rw [hstopped, hservice]
      exact hr.stopped_iff
    stopped := by
      intro grace w' hw'
      obtain ⟨r, hr, hstopped, hservice⟩ := hdown grace
      rw [hw'] at hstopped hservice
      dsimp only at hstopped hservice
      obtain ⟨hheld, hcancel, -⟩ := hr.stopped hstopped.symm
      rw [← hservice] at hheld hcancel
      refine ⟨hheld, beginsClear_of_cancelling hcancel, beginsClear_of_cancelling ?_⟩
      -- No worker is held, so the start goes through and clears the flags.
      have hrun : w'.service.isRunning = false := by rw [Service.isRunning, hheld]; rfl
      obtain ⟨scripts, script, hstart⟩ := Service.start_of_not_isRunning hrun
      rw [World.cancelling, w'.start_service, hstart]
    abandoned := by
      intro grace w' hw'
      obtain ⟨r, hr, hstopped, hservice⟩ := hdown grace
      rw [hw'] at hstopped hservice
      dsimp only at hstopped hservice
      obtain ⟨hheld, hcancel, -⟩ := hr.abandoned hstopped.symm
      rw [World.cancelling, hservice]
      exact ⟨hr.stopping, hcancel, hheld⟩
    idle := by
      intro grace w' hw' u hu i hi halive
      have hstopping := Later.shutdown_idle hs hw' hu hi halive
      refine ⟨hstopping, fun s rounds l hl => Loop.run_stopping s rounds ?_⟩
      rw [hl]
      exact hstopping }

/-- The first worker never ends by itself, and a shutdown during the cycle abandons it. The start
after that does nothing; only when the worker has ended can another one be started. -/
theorem restarted_lifecycle :
    let w : World := { interrupted with service := { scripts := [⟨none, false⟩] } }
    let abandoned := w.start.reapCycle.2
    let restarted := abandoned.start.exitWorker.start
    abandoned.service.stopping = true ∧ abandoned.start.service.stopping = true ∧
      restarted.service.isAlive 1 = true ∧ restarted.service.stopping = false ∧
      Lifecycle abandoned ∧ Lifecycle restarted := by
  intro w abandoned restarted
  have habandoned : Reachable abandoned := ((Reachable.fresh rfl).event (.start w)).event (.cycle _)
  refine ⟨by decide +kernel, by decide +kernel, by decide +kernel, by decide +kernel,
    reachable_lifecycle habandoned, reachable_lifecycle ?_⟩
  exact ((habandoned.event (.start _)).event (.exitWorker _)).event (.start _)

end FlowWarden.Reaper
