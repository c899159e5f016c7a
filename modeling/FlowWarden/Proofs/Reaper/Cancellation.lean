import FlowWarden.Proofs.Reaper.Steps
/-!
# A cycle that is cancelled

Wherever a cycle stands when the cancel flag is raised, it takes the remaining steps of the
execution in hand and stops: `reapCycle_cancelled`. The flag may be raised before the cycle or
during any request, in a query that then fails as well as in the last step for the last execution.
-/

namespace FlowWarden.Reaper

open World (Called Tried)

/-! ## What holds at every point -/

/-- The steps that were taken for the execution in hand were called, and a report says that the
cycle was cut short only where nothing else is going to happen. -/
structure Point.Sound (p : Point) : Prop where
  called : match p.stage with
    | .cancelled _ c _ => Called .cancel c
    | .restarted _ c r _ => Called .cancel c ∧ Called .restart r
    | _ => True
  cut : p.report.cancelled = true → p.world.cancelling = true ∧ ∃ rows, p.stage = .between rows

theorem Point.Sound.not_cut {p : Point} (h : p.Sound)
    (hgo : p.world.cancelling = false ∨ ∀ rows, p.stage ≠ .between rows) :
    p.report.cancelled = false := by
  rw [← Bool.not_eq_true]
  intro hc
  obtain ⟨hw, rows, hs⟩ := h.cut hc
  rcases hgo with hgo | hgo
  · rw [hw] at hgo
    cases hgo
  · exact hgo rows hs

/-- While the flag is not set, a step does not cut the cycle short. -/
theorem Step.report_cancelled {p q : Point} {call : Option Call} (h : Step p call q)
    (hp : p.world.cancelling = false) : q.report.cancelled = p.report.cancelled := by
  cases h with
  | cutStates hc | cutListed hc => exact absurd hc (by simpa using hp)
  | _ => rfl

theorem Step.sound {p q : Point} {call : Option Call} (h : Step p call q) (hp : p.Sound) :
    q.Sound := by
  -- Only the two steps that cut a cycle short have something to show about the report.
  have hquiet : ∀ {q : Point}, q.report.cancelled = p.report.cancelled →
      (p.world.cancelling = false ∨ ∀ rows, p.stage ≠ .between rows) →
      q.report.cancelled = true → q.world.cancelling = true ∧ ∃ rows, q.stage = .between rows := by
    intro q hq hgo hc
    rw [hq, hp.not_cut hgo] at hc
    cases hc
  cases h with
  | cutStates hc => exact ⟨trivial, fun _ => ⟨hc, _, rfl⟩⟩
  | cutListed hc => exact ⟨trivial, fun _ => ⟨hc, _, rfl⟩⟩
  | unlisted hc | list hc | spared hc | undecided hc => exact ⟨trivial, hquiet rfl (.inl hc)⟩
  | next => exact ⟨trivial, hquiet rfl (.inr (by simp))⟩
  | @cancel _ _ l _ _ _ _ w' _ _ hc _ hstep =>
    have hcalled := w'.cancelStep_called l l.execution.status
    rw [hstep] at hcalled
    exact ⟨hcalled, hquiet rfl (.inl hc)⟩
  | @restart l _ _ _ w _ _ hstep =>
    have hcalled := w.restartStep_called l l.execution.status
    rw [hstep] at hcalled
    exact ⟨⟨hp.called, hcalled⟩, hquiet rfl (.inr (by simp))⟩
  | delete => exact ⟨trivial, hquiet rfl (.inr (by simp))⟩

theorem Steps.sound {p q : Point} {calls : List Call} (h : Steps p calls q) (hp : p.Sound) :
    q.Sound := by
  induction h with
  | refl => exact hp
  | step h _ ih => exact ih (h.sound hp)

/-! ## The rest of a cancelled cycle -/

/-- A cycle that stood at `p` has ended with the report `r`: the execution in hand was remediated,
the listed ones that are left are reported as not attempted, and nothing else is new. -/
structure Ended (p : Point) (r : CycleReport) : Prop where
  scanned : r.scanned = p.report.scanned
  queryErrors : r.queryErrors = p.report.queryErrors
  skipped : r.skipped = p.report.skipped
  eligibilityErrors : r.eligibilityErrors = p.report.eligibilityErrors
  remediations : ∃ ms, List.Forall₂ Tried p.stage.inHand.toList ms ∧
    r.remediations = p.report.remediations ++ (ms ++ p.stage.unreached.map World.pending)
  cancelled : r.cancelled = true ↔
    p.report.cancelled = true ∨ p.stage.unreached ≠ [] ∨ p.stage.unvisited ≠ []

/-- The flag is set at a point and stays so. -/
def Stays (p : Point) : Prop :=
  ∀ calls q, Steps p calls q → q.world.cancelling = true

theorem Stays.now {p : Point} (h : Stays p) : p.world.cancelling = true :=
  h [] p .refl

theorem Stays.step {p q : Point} {call : Option Call} (h : Stays p) (hs : Step p call q) : Stays q :=
  fun calls s hq => h (call.toList ++ calls) s (.step hs hq)

theorem Stays.between {rows : List (Status × StalenessRule)} {r : CycleReport} {w : World}
    (h : Stays ⟨.between rows, r, w⟩) :
    ∃ r' w', Steps ⟨.between rows, r, w⟩ [] ⟨.between [], r', w'⟩ ∧ Ended ⟨.between rows, r, w⟩ r' := by
  cases rows with
  | nil =>
    refine ⟨r, w, .refl, rfl, rfl, rfl, rfl, ⟨[], .nil, ?_⟩, ?_⟩
    · simp [Stage.unreached]
    · simp [Stage.unreached, Stage.unvisited]
  | cons row rows =>
    refine ⟨r.cutShort, w, .one (.cutStates h.now), rfl, rfl, rfl, rfl, ⟨[], .nil, ?_⟩, ?_⟩
    · simp [CycleReport.cutShort, Stage.unreached]
    · simp [CycleReport.cutShort, Stage.unvisited]

theorem Stays.within {rest : Rest} {r : CycleReport} {w : World} (h : Stays ⟨.within rest, r, w⟩) :
    ∃ r' w', Steps ⟨.within rest, r, w⟩ [] ⟨.between [], r', w'⟩ ∧ Ended ⟨.within rest, r, w⟩ r' := by
  obtain ⟨status, rule, ls, rows⟩ := rest
  cases ls with
  | nil =>
    obtain ⟨r', w', hs, he⟩ := (h.step .next).between
    exact ⟨r', w', .step .next hs, he.scanned, he.queryErrors, he.skipped, he.eligibilityErrors,
      he.remediations, he.cancelled⟩
  | cons l ls =>
    -- The list is cut first, and then the states that are left, if there are any.
    have hcut : Step ⟨.within ⟨status, rule, l :: ls, rows⟩, r, w⟩ none _ := .cutListed h.now
    obtain ⟨r', w', hs, he⟩ := (h.step hcut).between
    refine ⟨r', w', .step hcut hs, he.scanned, he.queryErrors, he.skipped, he.eligibilityErrors,
      ⟨[], .nil, ?_⟩, ?_⟩
    · obtain ⟨ms, hms, hr⟩ := he.remediations
      cases hms
      simpa [CycleReport.remediated, CycleReport.cutShort, Stage.unreached] using hr
    · rw [he.cancelled]
      simp [CycleReport.remediated, CycleReport.cutShort, Stage.unreached]

theorem Stays.restarted {l : Listed} {c again : StepResult} {rest : Rest} {r : CycleReport}
    {w : World} (h : Stays ⟨.restarted l c again rest, r, w⟩)
    (hp : Point.Sound ⟨.restarted l c again rest, r, w⟩) :
    ∃ r' w', Steps ⟨.restarted l c again rest, r, w⟩ [.delete l.execution.id] ⟨.between [], r', w'⟩ ∧
      Ended ⟨.restarted l c again rest, r, w⟩ r' := by
  have hdelete : Step ⟨.restarted l c again rest, r, w⟩ (some (.delete l.execution.id))
      ⟨.within rest, r.remediated
        [⟨l.execution.id, l.execution.status, [c, again, (w.deleteStep l).1]⟩],
        (w.deleteStep l).2⟩ := .delete rfl
  obtain ⟨r', w', hs, he⟩ := (h.step hdelete).within
  refine ⟨r', w', .step hdelete hs, he.scanned, he.queryErrors, he.skipped, he.eligibilityErrors,
    ?_, he.cancelled⟩
  obtain ⟨ms, hms, hr⟩ := he.remediations
  cases hms
  have htried := World.tried_of_called (l := l) hp.called.1 hp.called.2 (w.deleteStep_called l)
  refine ⟨[_], .cons htried .nil, ?_⟩
  rw [hr]
  simp [CycleReport.remediated, Stage.unreached]

theorem Stays.cancelled {l : Listed} {c : StepResult} {rest : Rest} {r : CycleReport}
    {w : World} (h : Stays ⟨.cancelled l c rest, r, w⟩)
    (hp : Point.Sound ⟨.cancelled l c rest, r, w⟩) :
    ∃ r' w', Steps ⟨.cancelled l c rest, r, w⟩
        [.restart l.execution.id l.execution.status, .delete l.execution.id] ⟨.between [], r', w'⟩ ∧
      Ended ⟨.cancelled l c rest, r, w⟩ r' := by
  have hrestart : Step ⟨.cancelled l c rest, r, w⟩
      (some (.restart l.execution.id l.execution.status))
      ⟨.restarted l c (w.restartStep l l.execution.status).1 rest, r,
        (w.restartStep l l.execution.status).2⟩ := .restart rfl
  obtain ⟨r', w', hs, he⟩ := (h.step hrestart).restarted (hrestart.sound hp)
  exact ⟨r', w', .step hrestart hs, he.scanned, he.queryErrors, he.skipped, he.eligibilityErrors,
    he.remediations, he.cancelled⟩

/-- From a point where the flag is set for good, a cycle makes the requests that are due for the
execution in hand, and ends. -/
theorem Stays.ends {p : Point} (h : Stays p) (hp : p.Sound) :
    ∃ r w, Steps p p.stage.due ⟨.between [], r, w⟩ ∧ Ended p r := by
  obtain ⟨stage, r, w⟩ := p
  cases stage with
  | between => exact h.between
  | within => exact h.within
  | cancelled => exact h.cancelled hp
  | restarted => exact h.restarted hp

/-! ## Cancelling a cycle -/

/-- Where a cycle begins, after the first reading of the clock. -/
def World.opening (w : World) (start : Moment) : Point :=
  ⟨.between w.policy.monitoredRules, { startedAt := start }, w.readClock.2⟩

theorem World.opening_sound (w : World) (start : Moment) : (w.opening start).Sound :=
  ⟨trivial, fun h => by cases h⟩

/-- A cycle that returns is a run of the machine to its end. The clock is read once more after it. -/
theorem World.reapCycle_steps {w w' : World} {r : CycleReport} (h : w.reapCycle = (.ok r, w')) :
    ∃ calls r₀ w₁, Steps (w.opening r.startedAt) calls ⟨.between [], r₀, w₁⟩ ∧
      r = { r₀ with finishedAt := r.finishedAt } ∧ w₁.Made [] w' ∧ w'.calls = w₁.calls := by
  obtain ⟨start, w₀, r₀, w₁, finish, w₂, hstart, hmid, hfinish, rfl, rfl⟩ := World.reapCycle_eq_ok h
  -- The report keeps the moment at which the cycle began.
  have hopening :
      w.opening r₀.startedAt = ⟨.between w.policy.monitoredRules, { startedAt := start }, w₀⟩ := by
    obtain ⟨vs, -, -, hr, -⟩ :=
      World.reapStatuses_account w.policy.monitoredRules { startedAt := start } w₀
    rw [hmid] at hr
    dsimp only at hr
    rw [World.opening, hstart, hr]
    rfl
  obtain ⟨calls, hrun⟩ := World.reapStatuses_steps w.policy.monitoredRules { startedAt := start } w₀
  rw [hmid, ← hopening] at hrun
  have hmade : w₁.Made [] w₂ := by
    have hread := w₁.readClock_made
    rwa [hfinish] at hread
  have hcalls : w₂.calls = w₁.calls := by
    have hread : w₁.readClock.2.calls = w₁.calls := rfl
    rwa [hfinish] at hread
  exact ⟨calls, r₀, w₁, hrun, rfl, hmade.trans (.quiet rfl rfl rfl rfl rfl), hcalls⟩

/-- The point of a cycle at which the flag has been raised: its beginning, or the end of the
request during which somebody raised it. -/
inductive Raised (start : Point) : Point → Prop
  | before : start.world.cancelling = true → Raised start start
  | during {calls p call q} : Steps start calls p → Step p (some call) q →
      p.world.cancelling = false → q.world.cancelling = true → Raised start q

theorem Raised.reached {start p : Point} (h : Raised start p) : ∃ calls, Steps start calls p := by
  cases h with
  | before => exact ⟨[], .refl⟩
  | during hs h => exact ⟨_, hs.trans (.one h)⟩

theorem Raised.not_cut {start p : Point} (h : Raised start p) (hs : start.Sound)
    (hstart : start.report.cancelled = false) : p.report.cancelled = false := by
  cases h with
  | before => exact hstart
  | during hrun h hclear => rw [h.report_cancelled hclear, (hrun.sound hs).not_cut (.inl hclear)]

/-- A step without a request leaves the flag alone. -/
theorem Step.quiet {p q : Point} (h : Step p none q) : q.world.cancelling = p.world.cancelling := by
  generalize hcall : none = call at h
  cases h with
  | cutStates | next | cutListed => rfl
  | spared _ hc _ => exact congrArg Service.cancelling (World.check_service hc)
  | undecided _ hc =>
    have hservice := World.check_service hc
    exact congrArg Service.cancelling hservice
  | unlisted | list | cancel | restart | delete => cases hcall

/-- What cuts a cycle short is the flag, raised during one of its requests. -/
theorem Steps.raised {p q : Point} {calls : List Call} (h : Steps p calls q)
    (hp : p.world.cancelling = false) (hcut : p.report.cancelled = false)
    (hq : q.report.cancelled = true) :
    ∃ calls a c b, Steps p calls a ∧ Step a (some c) b ∧ a.world.cancelling = false ∧
      b.world.cancelling = true := by
  induction h with
  | refl =>
    rw [hcut] at hq
    cases hq
  | @step p p' q call _ hstep hs ih =>
    cases hp' : p'.world.cancelling with
    | false =>
      obtain ⟨calls, a, c, b, ha, hb, hclear, hset⟩ :=
        ih hp' (by rw [hstep.report_cancelled hp, hcut]) hq
      exact ⟨_, a, c, b, .step hstep ha, hb, hclear, hset⟩
    | true =>
      cases call with
      | none =>
        rw [hstep.quiet, hp] at hp'
        cases hp'
      | some c => exact ⟨[], p, c, p', .refl, hstep, hp, hp'⟩

/-- What a cycle does after the flag was raised at `p`. -/
structure CutAt (p : Point) (r : CycleReport) (w' : World) : Prop where
  /-- The only requests are the steps that are due for the execution in hand. -/
  requests : ∃ r₀ w₁, Steps p p.stage.due ⟨.between [], r₀, w₁⟩ ∧
    r = { r₀ with finishedAt := r.finishedAt } ∧ w'.calls = w₁.calls
  recorded : ∃ new, w'.calls = p.world.calls ++ new ∧
    new.filter Call.isRequest = p.stage.due.filter p.world.records
  /-- No further state is looked at, and no further execution is skipped. -/
  scanned : r.scanned = p.report.scanned
  skipped : r.skipped = p.report.skipped
  /-- The execution in hand is remediated with all its steps, and those that are left follow in
  order, with no step taken. -/
  remediations : ∃ ms, List.Forall₂ Tried p.stage.inHand.toList ms ∧
    r.remediations = p.report.remediations ++ (ms ++ p.stage.unreached.map World.pending)
  pending : ∀ l ∈ p.stage.unreached, World.pending l = ⟨l.execution.id, l.execution.status,
    [⟨.cancel, .skipped, some "cleanup cycle cancelled"⟩,
      ⟨.restart, .skipped, some "cleanup cycle cancelled"⟩,
      ⟨.deleteContainer, .skipped, some "cleanup cycle cancelled"⟩]⟩
  /-- The report says so, unless nothing was left. -/
  cancelled : r.cancelled = true ↔ p.stage.unreached ≠ [] ∨ p.stage.unvisited ≠ []

/-- A cycle that is cancelled for good at any point takes the remaining steps of the execution in
hand and stops there. -/
theorem reapCycle_cancelled {w w' : World} {r : CycleReport} {p : Point}
    (h : w.reapCycle = (.ok r, w')) (hp : Raised (w.opening r.startedAt) p) (hstays : Stays p) :
    CutAt p r w' := by
  obtain ⟨calls, r₀, w₁, hrun, hr, hquiet, hcalls⟩ := World.reapCycle_steps h
  -- The cycle passes through `p`.
  obtain ⟨before, hbefore⟩ := hp.reached
  obtain ⟨after, hafter, -⟩ := hbefore.through hrun rfl
  have hsound : p.Sound := hbefore.sound (w.opening_sound _)
  have hnot : p.report.cancelled = false := hp.not_cut (w.opening_sound _) rfl
  -- From `p` on there is one way to the end, and the flag says which.
  obtain ⟨r', w'', hdue, hended⟩ := hstays.ends hsound
  obtain ⟨rfl, hlast⟩ := hafter.end_unique hdue rfl rfl
  obtain ⟨rfl, rfl⟩ : r₀ = r' ∧ w₁ = w'' := by simpa using hlast
  have hmade := (hafter.made.trans hquiet).calls
  rw [List.append_nil] at hmade
  exact {
    requests := ⟨r₀, w₁, hafter, hr, hcalls⟩
    recorded := hmade
    scanned := by rw [hr]; exact hended.scanned
    skipped := by rw [hr]; exact hended.skipped
    remediations := by rw [hr]; exact hended.remediations
    pending := fun l _ => rfl
    cancelled := by
      have hc := hended.cancelled
      rw [hnot] at hc
      rw [hr]
      simpa using hc }

/-! ## A cycle that is cancelled in the middle of a remediation -/

/-- The reaper holds on to a worker that nothing ends, and the cycle is being cancelled. -/
def Stuck (s : Service) : Prop :=
  s.cancelling = true ∧ ∃ i, s.held = some i ∧ s.workers[i]? = some ⟨⟨none, false⟩, true⟩

theorem Stuck.afterShutdown {s : Service} (h : Stuck s) (grace : Float) :
    Stuck (World.afterShutdown s grace) := by
  obtain ⟨hc, i, hi, hw⟩ := h
  -- Waiting for such a worker leaves it as it is, in both waits of a shutdown.
  have hjoin (cancelling : Bool) (seconds : Float) :
      (s.workers.modify i (Worker.join cancelling seconds))[i]? = some ⟨⟨none, false⟩, true⟩ := by
    simp [hw, Worker.join]
  simp [Stuck, World.afterShutdown, Service.shutdown, Service.join, Service.settle,
    Service.isAlive, hi, hc, hjoin, Worker.join]

theorem Stuck.afterShutdowns {s : Service} (h : Stuck s) (gs : List Float) :
    Stuck (gs.foldl World.afterShutdown s) := by
  induction gs generalizing s with
  | nil => exact h
  | cons g gs ih => exact ih (h.afterShutdown g)

theorem Stuck.stays {p : Point} (h : Stuck p.world.service) : Stays p := by
  intro calls q hq
  obtain ⟨gs, hg⟩ := hq.made.service
  have hstuck := h.afterShutdowns gs
  rw [← hg] at hstuck
  exact hstuck.1

/-- The first state cannot be listed, the first execution of the next one is fresh, and the flag is
raised while the second is cancelled: its restart and its deletion are due, and the third execution
is left. -/
theorem interrupted_cancelled :
    ∃ p, Raised (interrupted.opening interruptedReport.startedAt) p ∧
      p.stage.due = [.restart 2 .preparing, .delete 2] ∧
      p.stage.unreached.map (fun l => l.execution.id) = [3] ∧
      CutAt p interruptedReport interrupted.reapCycle.2 := by
  obtain ⟨p, hp, hstuck, hdue, hleft⟩ : ∃ p, Raised (interrupted.opening interruptedReport.startedAt) p ∧
      Stuck p.world.service ∧ p.stage.due = [.restart 2 .preparing, .delete 2] ∧
      p.stage.unreached.map (fun l => l.execution.id) = [3] := by
    refine ⟨_, .during (.step (.unlisted rfl rfl) (.step (.list rfl rfl)
      (.one (.spared rfl rfl (by decide))))) (.cancel rfl rfl rfl) rfl rfl, ?_, rfl, rfl⟩
    exact ⟨rfl, 0, rfl, rfl⟩
  exact ⟨p, hp, hdue, hleft, reapCycle_cancelled (Prod.ext rfl rfl) hp hstuck.stays⟩

end FlowWarden.Reaper
