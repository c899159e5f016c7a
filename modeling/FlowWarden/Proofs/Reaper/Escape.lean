import FlowWarden.Proofs.Reaper.Cancellation
import FlowWarden.Proofs.Reaper.Treatments
/-!
# What escapes a cycle

A cycle catches whatever its collaborators raise. What it lets through are failures of the first and
the last reading of the clock, and then it publishes nothing: `World.contained`. A reading that
fails in between costs one execution its turn. So the last report is always that of the last cycle
that returned: `cycles_contained`.
-/

namespace FlowWarden.Reaper

/-! ## What a cycle leaves alone -/

/-- The reaper has kept its settings, its collaborators and its last report. -/
structure World.Keeps (w w' : World) : Prop where
  policy : w'.policy = w.policy
  interval : w'.interval = w.interval
  grace : w'.grace = w.grace
  devPodGrace : w'.devPodGrace = w.devPodGrace
  script : w'.script = w.script
  lastReport : w'.lastReport = w.lastReport

namespace World

variable {w w' w'' : World}

theorem Keeps.refl (w : World) : Keeps w w :=
  ⟨rfl, rfl, rfl, rfl, rfl, rfl⟩

theorem Keeps.trans (h : Keeps w w') (h' : Keeps w' w'') : Keeps w w'' where
  policy := h'.policy.trans h.policy
  interval := h'.interval.trans h.interval
  grace := h'.grace.trans h.grace
  devPodGrace := h'.devPodGrace.trans h.devPodGrace
  script := h'.script.trans h.script
  lastReport := h'.lastReport.trans h.lastReport

theorem say_keeps (w : World) (level : Log.Level) (message : String) :
    Keeps w (w.say level message) :=
  ⟨rfl, rfl, rfl, rfl, rfl, rfl⟩

theorem note_keeps (w : World) (c : Call) : Keeps w (w.note c) :=
  ⟨rfl, rfl, rfl, rfl, rfl, rfl⟩

theorem readClock_keeps (w : World) : Keeps w w.readClock.2 :=
  ⟨rfl, rfl, rfl, rfl, rfl, rfl⟩

theorem check_keeps {status : Status} {rule : StalenessRule} {l : Listed}
    {answer : Except Failure Verdict} (h : w.check status rule l = (answer, w')) : Keeps w w' := by
  obtain ⟨clock, log, rfl⟩ := check_world h
  exact ⟨rfl, rfl, rfl, rfl, rfl, rfl⟩

theorem shutdown_keeps (grace : Option Number) (w : World) : Keeps w (w.shutdown grace).2 := by
  obtain ⟨log, h⟩ := shutdown_world grace w
  rw [h]
  exact ⟨rfl, rfl, rfl, rfl, rfl, rfl⟩

theorem start_keeps (w : World) : Keeps w w.start := by
  unfold start
  split
  next => exact say_keeps _ _ _
  next service _ =>
    have hstarted : Keeps w { w with service } := ⟨rfl, rfl, rfl, rfl, rfl, rfl⟩
    exact hstarted.trans ((note_keeps _ _).trans (say_keeps _ _ _))

theorem shutdowns_keeps (gs : List (Option Number)) (w : World) :
    Keeps w (gs.foldl shutdownNoted w) := by
  induction gs generalizing w with
  | nil => exact .refl w
  | cons g gs ih =>
    have hone : Keeps w (w.shutdownNoted g) := (shutdown_keeps g w).trans (note_keeps _ _)
    exact hone.trans (ih _)

theorem happen_keeps (w : World) (c : Call) : Keeps w (w.happen c) :=
  (w.note_keeps c).trans (shutdowns_keeps _ _)

theorem query_keeps {status : Status} {rule : StalenessRule}
    {answer : Except Failure (List Listed)} (h : w.query status rule = (answer, w')) :
    Keeps w w' := by
  obtain rfl : (w.query status rule).2 = w' := congrArg Prod.snd h
  unfold query
  split
  next => exact .refl w
  next =>
    dsimp only
    split <;> exact happen_keeps _ _

theorem cancel_keeps (w : World) (l : Listed) : Keeps w (w.cancel l).2 := by
  unfold cancel
  split
  next => exact .refl w
  next =>
    have hmoved (u : World) (es : List Execution) : Keeps u { u with executions := es } :=
      ⟨rfl, rfl, rfl, rfl, rfl, rfl⟩
    exact (note_keeps _ _).trans ((hmoved _ _).trans (shutdowns_keeps _ _))

theorem restart_keeps (w : World) (l : Listed) (prior : Status) :
    Keeps w (w.restart l prior).2 := by
  unfold restart
  split
  next => exact .refl w
  next => exact happen_keeps _ _

theorem delete_keeps (w : World) (id : Int) : Keeps w (w.delete id).2 := by
  unfold delete
  split
  next => exact ⟨rfl, rfl, rfl, rfl, rfl, rfl⟩
  next =>
    split
    next => exact .refl w
    next => exact happen_keeps _ _

theorem conclude_keeps (w : World) (step : RemediationStep) (what : String)
    (answer : Except Failure Unit) : Keeps w (w.conclude step what answer).2 := by
  cases answer with
  | ok => exact .refl w
  | error => exact say_keeps _ _ _

theorem cancelStep_keeps (w : World) (l : Listed) (prior : Status) :
    Keeps w (w.cancelStep l prior).2 :=
  (say_keeps _ _ _).trans ((cancel_keeps _ l).trans (conclude_keeps _ _ _ _))

theorem restartStep_keeps (w : World) (l : Listed) (prior : Status) :
    Keeps w (w.restartStep l prior).2 :=
  (say_keeps _ _ _).trans ((restart_keeps _ l prior).trans (conclude_keeps _ _ _ _))

theorem deleteStep_keeps (w : World) (l : Listed) : Keeps w (w.deleteStep l).2 :=
  (delete_keeps _ _).trans (conclude_keeps _ _ _ _)

end World

section

variable {p q : Point} {call : Option Call} {calls : List Call}

theorem Step.keeps (h : Step p call q) : p.world.Keeps q.world := by
  cases h with
  | cutStates | next | cutListed => exact .refl _
  | unlisted _ hq =>
    exact (World.say_keeps _ _ _).trans ((World.query_keeps hq).trans (World.say_keeps _ _ _))
  | list _ hq => exact (World.say_keeps _ _ _).trans (World.query_keeps hq)
  | spared _ hc _ => exact World.check_keeps hc
  | undecided _ hc => exact (World.check_keeps hc).trans (World.say_keeps _ _ _)
  | @cancel _ _ l _ _ _ _ w' _ _ _ hc hstep =>
    have hcancel := w'.cancelStep_keeps l l.execution.status
    rw [hstep] at hcancel
    exact (World.check_keeps hc).trans hcancel
  | @restart l _ _ _ w _ _ hstep =>
    have hrestart := w.restartStep_keeps l l.execution.status
    rwa [hstep] at hrestart
  | @delete l _ _ _ _ w _ _ hstep =>
    have hdelete := w.deleteStep_keeps l
    rwa [hstep] at hdelete

theorem Steps.keeps (h : Steps p calls q) : p.world.Keeps q.world := by
  induction h with
  | refl => exact .refl _
  | step hstep _ ih => exact hstep.keeps.trans ih

end

/-! ## The first and the last reading of the clock -/

/-- The reading of the clock with which a cycle would end that begins in `w`. -/
inductive LastReading (w : World) : Except Failure Moment → World → Prop
  | mk {start calls r w₁} : w.readClock.1 = .ok start →
      Steps (w.opening start) calls ⟨.between [], r, w₁⟩ →
      LastReading w w₁.readClock.1 w₁.readClock.2

/-- The ways in which a cycle comes to an end. -/
inductive Conclusion (w : World) : Except Failure CycleReport → World → Prop
  | unbegun {f} : w.readClock.1 = .error f → Conclusion w (.error f) w.readClock.2
  | unfinished {start calls r w₁ f} : w.readClock.1 = .ok start →
      Steps (w.opening start) calls ⟨.between [], r, w₁⟩ → w₁.readClock.1 = .error f →
      Conclusion w (.error f) w₁.readClock.2
  | finished {start calls r r' w₁ finish} : w.readClock.1 = .ok start →
      Steps (w.opening start) calls ⟨.between [], r, w₁⟩ → w₁.readClock.1 = .ok finish →
      r' = { r with finishedAt := some finish } →
      Conclusion w (.ok r')
        ({ w₁.readClock.2 with lastReport := some r' }.say Log.info (World.summary r'))

theorem World.reapCycle_conclusion (w : World) : Conclusion w w.reapCycle.1 w.reapCycle.2 := by
  have hread : w.readClock = (w.readClock.1, w.readClock.2) := rfl
  generalize hout : w.reapCycle = out
  unfold reapCycle at hout
  cases hstart : w.readClock.1 with
  | error f =>
    rw [hread, hstart] at hout
    obtain rfl := hout
    exact .unbegun hstart
  | ok start =>
    rw [hread, hstart] at hout
    obtain ⟨calls, hsteps⟩ :=
      reapStatuses_steps w.policy.monitoredRules { startedAt := start } w.readClock.2
    -- What comes between the two readings is the run of the machine.
    generalize hmid :
      reapStatuses w.policy.monitoredRules { startedAt := start } w.readClock.2 = mid at hsteps
    have hmid' : reapStatuses w.readClock.2.policy.monitoredRules { startedAt := start }
      w.readClock.2 = mid := hmid
    obtain ⟨r, w₁⟩ := mid
    have hlast : w₁.readClock = (w₁.readClock.1, w₁.readClock.2) := rfl
    simp only [hmid'] at hout
    cases hfinish : w₁.readClock.1 with
    | error f =>
      rw [hlast, hfinish] at hout
      obtain rfl := hout
      exact .unfinished hstart hsteps hfinish
    | ok finish =>
      rw [hlast, hfinish] at hout
      obtain rfl := hout
      exact .finished hstart hsteps hfinish rfl

/-- Two runs through the states end alike, so there is one last reading. -/
theorem LastReading.unique {w w' w'' : World} {reading reading' : Except Failure Moment}
    (h : LastReading w reading w') (h' : LastReading w reading' w'') :
    reading = reading' ∧ w' = w'' := by
  obtain ⟨hstart, hsteps⟩ := h
  obtain ⟨hstart', hsteps'⟩ := h'
  obtain rfl := Except.ok.inj (hstart.symm.trans hstart')
  obtain ⟨-, hend⟩ := hsteps.end_unique hsteps' rfl rfl
  obtain ⟨-, rfl⟩ := by simpa using hend
  exact ⟨rfl, rfl⟩

theorem LastReading.begun {w w' : World} {reading : Except Failure Moment} {f : Failure}
    (h : LastReading w reading w') : w.readClock.1 ≠ .error f := by
  obtain ⟨hstart, -⟩ := h
  rw [hstart]
  intro hf
  cases hf

/-- What is left of a cycle at any of its points can be run. -/
theorem Steps.finishes {w : World} {start : Moment} {calls : List Call} {p : Point}
    (h : Steps (w.opening start) calls p) : ∃ more r w₁, Steps p more ⟨.between [], r, w₁⟩ := by
  obtain ⟨calls', hrun⟩ :=
    World.reapStatuses_steps w.policy.monitoredRules { startedAt := start } w.readClock.2
  obtain ⟨more, hmore, -⟩ := h.through hrun rfl
  exact ⟨more, _, _, hmore⟩

/-! ## What a cycle lets through -/

/-- The failures of a cycle that begins in `w`, and what becomes of the others. -/
structure Contained (w : World) : Prop where
  /-- A cycle fails if its first or its last reading of the clock does, and for no other reason. -/
  fails_iff : ∀ f, w.reapCycle.1 = .error f ↔
    w.readClock.1 = .error f ∨ ∃ w', LastReading w (.error f) w'
  returns_iff : (∃ r, w.reapCycle.1 = .ok r) ↔ ∃ finish w', LastReading w (.ok finish) w'
  /-- Where the first reading fails, nobody is asked for anything. -/
  unbegun : ∀ f, w.readClock.1 = .error f →
    w.reapCycle = (.error f, { w with clock := w.clock.read.2 })
  /-- A cycle that fails publishes nothing and leaves the reaper ready for the next one. -/
  failed : ∀ f, w.reapCycle.1 = .error f → w.Keeps w.reapCycle.2
  returned : ∀ r, w.reapCycle.1 = .ok r → r.finishedAt.isSome = true ∧
    w.reapCycle.2.lastReport = some r ∧ w.Keeps { w.reapCycle.2 with lastReport := w.lastReport }
  /-- A reading that fails in between costs one execution its turn. -/
  undecided : ∀ start calls p status rule l ls rows f, Steps (w.opening start) calls p →
    p.stage = .within ⟨status, rule, l :: ls, rows⟩ → p.world.cancelling = false →
    p.world.readClock.1 = .error f →
    ∃ q log, Step p none q ∧ q.stage = .within ⟨status, rule, ls, rows⟩ ∧
      q.report = { p.report with
        skipped := p.report.skipped ++ [l.execution.id]
        eligibilityErrors := Keyed.insert l.execution.id f.message p.report.eligibilityErrors } ∧
      q.world = { p.world.readClock.2 with log }
  /-- From every point the cycle comes to its last reading, and nothing is published before that. -/
  continues : ∀ start calls p, Steps (w.opening start) calls p →
    p.world.lastReport = w.lastReport ∧ ∃ more r w₁, Steps p more ⟨.between [], r, w₁⟩

/-- A reading that fails leaves an execution undecided. -/
theorem Point.undecided {p : Point} {status : Status} {rule : StalenessRule} {l : Listed}
    {ls : List Listed} {rows : List (Status × StalenessRule)} {f : Failure}
    (hstage : p.stage = .within ⟨status, rule, l :: ls, rows⟩) (hclear : p.world.cancelling = false)
    (hread : p.world.readClock.1 = .error f) :
    Step p none ⟨.within ⟨status, rule, ls, rows⟩,
      (p.report.undecided l.execution.id f.message).skip l.execution.id,
      p.world.readClock.2.say Log.error (undecidedText l f)⟩ := by
  obtain ⟨stage, r, w⟩ := p
  obtain rfl : stage = _ := hstage
  apply Step.undecided hclear
  have hpair : w.readClock = (.error f, w.readClock.2) := Prod.ext hread rfl
  rw [World.check, hpair]

section

variable {w w' : World} {answer : Except Failure CycleReport}

theorem Conclusion.fails_iff (h : Conclusion w answer w') (f : Failure) :
    answer = .error f ↔ w.readClock.1 = .error f ∨ ∃ w₁, LastReading w (.error f) w₁ := by
  cases h with
  | @unbegun g hstart =>
    have hnone : ¬ ∃ w₁, LastReading w (.error f) w₁ := fun ⟨_, hlast⟩ => hlast.begun hstart
    rw [hstart, or_iff_left hnone]
    simp
  | @unfinished start calls r w₁ g hstart hsteps hfinish =>
    have hlast := LastReading.mk hstart hsteps
    rw [hfinish] at hlast
    rw [or_iff_right hlast.begun]
    constructor
    · rintro ⟨⟩
      exact ⟨_, hlast⟩
    · rintro ⟨_, hlast'⟩
      cases (hlast.unique hlast').1
      rfl
  | finished hstart hsteps hfinish =>
    have hlast := LastReading.mk hstart hsteps
    rw [hfinish] at hlast
    rw [or_iff_right hlast.begun]
    constructor
    · intro hf
      cases hf
    · rintro ⟨_, hlast'⟩
      cases (hlast.unique hlast').1

theorem Conclusion.returns_iff (h : Conclusion w answer w') :
    (∃ r, answer = .ok r) ↔ ∃ finish w₁, LastReading w (.ok finish) w₁ := by
  cases h with
  | unbegun hstart =>
    constructor
    · rintro ⟨_, ⟨⟩⟩
    · rintro ⟨_, _, hlast⟩
      exact absurd hstart hlast.begun
  | unfinished hstart hsteps hfinish =>
    have hlast := LastReading.mk hstart hsteps
    rw [hfinish] at hlast
    constructor
    · rintro ⟨_, ⟨⟩⟩
    · rintro ⟨_, _, hlast'⟩
      cases (hlast.unique hlast').1
  | finished hstart hsteps hfinish =>
    have hlast := LastReading.mk hstart hsteps
    rw [hfinish] at hlast
    exact ⟨fun _ => ⟨_, _, hlast⟩, fun _ => ⟨_, rfl⟩⟩

theorem Conclusion.failed {f : Failure} (h : Conclusion w (.error f) w') : w.Keeps w' := by
  cases h with
  | unbegun => exact w.readClock_keeps
  | @unfinished _ _ _ w₁ _ _ hsteps =>
    exact w.readClock_keeps.trans (hsteps.keeps.trans w₁.readClock_keeps)

theorem Conclusion.returned {r : CycleReport} (h : Conclusion w (.ok r) w') :
    r.finishedAt.isSome = true ∧ w'.lastReport = some r ∧
      w.Keeps { w' with lastReport := w.lastReport } := by
  cases h with
  | @finished _ _ _ _ w₁ _ _ hsteps _ hr =>
    have hkeeps := w.readClock_keeps.trans (hsteps.keeps.trans w₁.readClock_keeps)
    refine ⟨by rw [hr]; rfl, rfl, ?_⟩
    exact ⟨hkeeps.policy, hkeeps.interval, hkeeps.grace, hkeeps.devPodGrace, hkeeps.script, rfl⟩

theorem Conclusion.unbegun_eq {f : Failure} (h : Conclusion w answer w')
    (hstart : w.readClock.1 = .error f) : answer = .error f ∧ w' = { w with clock := w.clock.read.2 } := by
  cases h with
  | unbegun hstart' => exact ⟨by rw [← Except.error.inj (hstart.symm.trans hstart')], rfl⟩
  | unfinished hstart' | finished hstart' => cases hstart.symm.trans hstart'

end

/-- Only the first and the last reading of the clock can make a cycle fail. -/
theorem World.contained (w : World) : Contained w where
  fails_iff := w.reapCycle_conclusion.fails_iff
  returns_iff := w.reapCycle_conclusion.returns_iff
  unbegun := by
    intro f hstart
    obtain ⟨hanswer, hworld⟩ := w.reapCycle_conclusion.unbegun_eq hstart
    exact Prod.ext hanswer hworld
  failed := by
    intro f hf
    have hconclusion := w.reapCycle_conclusion
    rw [hf] at hconclusion
    exact hconclusion.failed
  returned := by
    intro r hr
    have hconclusion := w.reapCycle_conclusion
    rw [hr] at hconclusion
    exact hconclusion.returned
  undecided := by
    intro start calls p status rule l ls rows f _ hstage hclear hread
    exact ⟨_, _, Point.undecided hstage hclear hread, rfl, rfl, rfl⟩
  continues := by
    intro start calls p hsteps
    exact ⟨hsteps.keeps.lastReport, hsteps.finishes⟩

/-! ## One cycle after another -/

/-- Cycles of one reaper with their answers. Between them the reaper may be started and shut down,
and anything may happen to its surroundings. -/
inductive Cycles (w : World) : List (Except Failure CycleReport) → World → Prop
  | refl : Cycles w [] w
  | cycle {answers w'} : Cycles w answers w' → Cycles w (answers ++ [w'.reapCycle.1]) w'.reapCycle.2
  | start {answers w'} : Cycles w answers w' → Cycles w answers w'.start
  | shutdown {answers w'} (grace : Option Number) : Cycles w answers w' →
      Cycles w answers (w'.shutdown grace).2
  | surroundings {answers w'} (script : Script) (executions : List Execution) (clock : Clock)
      (service : Service) (containers : Option Cluster.Containers) (calls : List Call)
      (log : List Log.Record) : Cycles w answers w' →
      Cycles w answers { w' with script, executions, clock, service, containers, calls, log }

/-- The reports of the cycles that returned. -/
def reports (answers : List (Except Failure CycleReport)) : List CycleReport :=
  answers.filterMap Except.toOption

/-- The last report after cycles that gave these answers. -/
structure Published (w : World) (answers : List (Except Failure CycleReport)) (w' : World) :
    Prop where
  last : w'.lastReport = (reports answers).getLast?.or w.lastReport
  finished : ∀ r ∈ reports answers, r.finishedAt.isSome = true
  absent : w.lastReport = none →
    (w'.lastReport = none ↔ ∀ answer ∈ answers, ∃ f, answer = .error f)

theorem reports_append (answers : List (Except Failure CycleReport))
    (answer : Except Failure CycleReport) :
    reports (answers ++ [answer]) = reports answers ++ answer.toOption.toList := by
  rw [reports, reports, List.filterMap_append]
  cases answer <;> rfl

theorem reports_eq_nil {answers : List (Except Failure CycleReport)} :
    reports answers = [] ↔ ∀ answer ∈ answers, ∃ f, answer = .error f := by
  rw [reports, List.filterMap_eq_nil_iff]
  refine forall₂_congr fun answer _ => ?_
  cases answer <;> simp [Except.toOption]

section

variable {w w' : World} {answers : List (Except Failure CycleReport)}

theorem Cycles.last (h : Cycles w answers w') :
    w'.lastReport = (reports answers).getLast?.or w.lastReport := by
  induction h with
  | refl => rfl
  | @cycle answers w' _ ih =>
    rw [reports_append]
    cases hanswer : w'.reapCycle.1 with
    | error f =>
      rw [(w'.contained.failed f hanswer).lastReport, ih]
      simp [Except.toOption]
    | ok r =>
      rw [(w'.contained.returned r hanswer).2.1]
      simp [Except.toOption]
  | @start answers w' _ ih => rw [← ih, w'.start_keeps.lastReport]
  | @shutdown answers w' grace _ ih => rw [← ih, (World.shutdown_keeps grace w').lastReport]
  | surroundings _ _ _ _ _ _ _ _ ih => exact ih

theorem Cycles.finished (h : Cycles w answers w') :
    ∀ r ∈ reports answers, r.finishedAt.isSome = true := by
  induction h with
  | refl => simp [reports]
  | @cycle answers w' _ ih =>
    rw [reports_append]
    intro r hr
    rcases List.mem_append.1 hr with hr | hr
    · exact ih r hr
    · cases hanswer : w'.reapCycle.1 with
      | error f => simp [hanswer, Except.toOption] at hr
      | ok r' =>
        obtain rfl : r = r' := by simpa [hanswer, Except.toOption] using hr
        exact (w'.contained.returned r hanswer).1
  | start _ ih | shutdown _ _ ih | surroundings _ _ _ _ _ _ _ _ ih => exact ih

/-- After any cycles, the next one lets only the failures of its own readings through, and the last
report is that of the last cycle that returned. -/
theorem cycles_contained (h : Cycles w answers w') : Contained w' ∧ Published w answers w' := by
  refine ⟨w'.contained, h.last, h.finished, ?_⟩
  intro hfresh
  rw [h.last, hfresh, Option.or_none, List.getLast?_eq_none_iff, reports_eq_nil]

end

/-- The clock fails while the second execution is looked at, at the end of that cycle and at the
beginning of the next one. A cancellation leaves the executions where they are. -/
def unsteady : World :=
  { interrupted with
    script := { cancelTo := none }
    clock := { interrupted.clock with fails := fun n => n == 3 || n == 5 || n == 6 } }

def unsteadyReport : CycleReport :=
  { interruptedReport with
    scanned := [.dispatching, .preparing, .killing]
    queryErrors := []
    remediations := [2, 3].map fun id =>
      ⟨id, .preparing, RemediationStep.all.map fun step => ⟨step, .success, none⟩⟩
    cancelled := false }

/-- The first two cycles fail, and the third one is none the worse for it. -/
theorem unsteady_contained :
    let ended := unsteady.reapCycle.2
    let unbegun := ended.reapCycle.2
    let answers := [.error (.raised "clock failed at call 5"),
      .error (.raised "clock failed at call 6"), .ok unsteadyReport]
    unsteady.lastReport = none ∧ unbegun.reapCycle.2.lastReport = some unsteadyReport ∧
      Contained unbegun.reapCycle.2 ∧ Published unsteady answers unbegun.reapCycle.2 := by
  intro ended unbegun answers
  have hended : unsteady.reapCycle.1 = .error (.raised "clock failed at call 5") := by
    decide +kernel
  have hunbegun : ended.reapCycle.1 = .error (.raised "clock failed at call 6") := by
    decide +kernel
  have hreturned : unbegun.reapCycle.1 = .ok unsteadyReport := by
    decide +kernel
  have hcycles : Cycles unsteady
      ([unsteady.reapCycle.1] ++ [ended.reapCycle.1] ++ [unbegun.reapCycle.1])
      unbegun.reapCycle.2 :=
    Cycles.refl.cycle.cycle.cycle
  rw [hended, hunbegun, hreturned] at hcycles
  exact ⟨rfl, (unbegun.contained.returned _ hreturned).2.1, cycles_contained hcycles⟩

end FlowWarden.Reaper
