import FlowWarden.Proofs.Reaper.Treatments
/-!
# Failures stay where they happen

Two cycles that start alike and differ in which steps fail go the same way: `reapCycle_isolated`.
They make the same calls at the same readings of the clock, and their reports differ only in how
the taken steps went. In the same way a cycle does not care whether the executions of a state could
not be listed or there were none.

`Alike` holds between the worlds of the two cycles, and `Same` between their reports. Each operation
of a cycle has one lemma that it keeps them.
-/

namespace FlowWarden

/-- A step without how it went, if it was taken. -/
def StepResult.outline (s : StepResult) : StepResult :=
  if s.outcome = .skipped then s else ⟨s.step, .success, none⟩

namespace Remediation

def outline (m : Remediation) : Remediation :=
  { m with steps := m.steps.map StepResult.outline }

end Remediation

namespace CycleReport

def mapRemediations (φ : Remediation → Remediation) (r : CycleReport) : CycleReport :=
  { r with remediations := r.remediations.map φ }

/-- A report without how the taken steps went. -/
def outline (r : CycleReport) : CycleReport :=
  r.mapRemediations Remediation.outline

/-- A report without the entry for a state whose executions could not be listed. -/
def without (gone : Option Status) (r : CycleReport) : CycleReport :=
  { r with queryErrors := r.queryErrors.filter fun e => gone != some e.1 }

theorem mapRemediations_id (r : CycleReport) : r.mapRemediations id = r := by
  rw [mapRemediations, List.map_id]

theorem without_none (r : CycleReport) : r.without none = r := by
  have hkept : r.queryErrors.filter (fun e => none != some e.1) = r.queryErrors :=
    List.filter_eq_self.2 fun _ _ => rfl
  rw [without, hkept]

theorem without_queryFailed (gone : Option Status) (r : CycleReport) (status : Status) (why : String) :
    (r.queryFailed status why).without gone =
      if gone = some status then r.without gone else (r.without gone).queryFailed status why := by
  have h := Keyed.filter_insert (fun s => gone != some s) status why r.queryErrors
  by_cases hs : gone = some status
  · rw [if_neg (by simp [hs])] at h
    rw [if_pos hs, without, queryFailed, h]
    rfl
  · rw [if_pos (by simp [hs])] at h
    rw [if_neg hs, without, queryFailed, h]
    rfl

end CycleReport

namespace Reaper

/-- Which steps fail, by the number of calls before, the step and the execution. -/
abbrev Faults := Nat → RemediationStep → Int → Option String

namespace World

/-- The same surroundings with other steps that fail. -/
def under (w : World) (f : Faults) : World :=
  { w with script := { w.script with stepFault := f } }

/-! ## A cycle that does not see the executions in a state -/

/-- The store's answer, without the executions in a state `gone`. -/
def emptied (gone : Option Status) (w : World) (status : Status) (rule : StalenessRule) :
    Except Failure (List Listed) × World :=
  let (answer, w) := w.query status rule
  (if gone = some status then .ok [] else answer, w)

/-- How a cycle asks for the executions in a state. -/
abbrev Asking := World → Status → StalenessRule → Except Failure (List Listed) × World

/-- Deals with one state, by any way to ask for its executions. -/
def reapStatusBy (ask : Asking) (status : Status) (rule : StalenessRule) (r : CycleReport)
    (w : World) : CycleReport × World :=
  let w := w.say Log.info ("Cleaning up stale flows for status: " ++ status.name)
  let r := r.scan status
  match ask w status rule with
  | (.error f, w) =>
    (r.queryFailed status f.message, w.say Log.error
      ("❌ Error fetching stale flows for status " ++ status.name ++ ": " ++ f.message))
  | (.ok ls, w) => reapListed status rule ls r w

def reapStatusesBy (ask : Asking) :
    List (Status × StalenessRule) → CycleReport → World → CycleReport × World
  | [], r, w => (r, w)
  | (status, rule) :: rest, r, w =>
    if w.cancelling then (r.cutShort, w)
    else
      let (r, w) := reapStatusBy ask status rule r w
      reapStatusesBy ask rest r w

/-- One cycle, by any way to ask for executions. -/
def reapCycleBy (ask : Asking) (w : World) : Except Failure CycleReport × World :=
  match w.readClock with
  | (.error f, w) => (.error f, w)
  | (.ok startedAt, w) =>
    let (r, w) := reapStatusesBy ask w.policy.monitoredRules { startedAt } w
    match w.readClock with
    | (.error f, w) => (.error f, w)
    | (.ok finishedAt, w) =>
      let r := { r with finishedAt := some finishedAt }
      (.ok r, { w with lastReport := some r }.say Log.info (summary r))

theorem emptied_none : emptied none = query := by
  funext w status rule
  simp [emptied]

theorem reapStatusesBy_query : reapStatusesBy query = reapStatuses := by
  funext rs r w
  induction rs generalizing r w with
  | nil => rfl
  | cons row rs ih =>
    rw [reapStatusesBy, reapStatuses]
    split
    · rfl
    · exact ih _ _

/-- A cycle asks the store. -/
theorem reapCycleBy_query (w : World) : reapCycleBy query w = w.reapCycle := by
  unfold reapCycleBy
  rw [reapStatusesBy_query]
  rfl

end World

/-! ## Worlds that differ in which steps fail -/

/-- `w'` is `w` with the faults `g`, apart from the log and the last report. -/
structure Alike (base : Script) (g : Faults) (w w' : World) : Prop where
  script : w.script = base
  rest : ∃ log lastReport,
    w' = { w with script := { base with stepFault := g }, log, lastReport }

/-- Two results in alike worlds, equal where the same steps fail. -/
structure Agreed {α : Type} (base : Script) (g : Faults) (a b : α × World) : Prop where
  alike : Alike base g a.2 b.2
  eq : base.stepFault = g → b.1 = a.1

namespace Alike

variable {base : Script} {g : Faults} {w w' : World}

theorem of_under (w : World) (f g : Faults) :
    Alike (w.under f).script g (w.under f) (w.under g) :=
  ⟨rfl, w.log, w.lastReport, rfl⟩

theorem refl (w : World) : Alike w.script w.script.stepFault w w :=
  ⟨rfl, w.log, w.lastReport, rfl⟩

theorem cancelling (h : Alike base g w w') : w'.cancelling = w.cancelling := by
  obtain ⟨rfl, log, last, rfl⟩ := h
  rfl

theorem monitoredRules (h : Alike base g w w') :
    w'.policy.monitoredRules = w.policy.monitoredRules := by
  obtain ⟨rfl, log, last, rfl⟩ := h
  rfl

theorem say (h : Alike base g w w') (level level' : Log.Level) (message message' : String) :
    Alike base g (w.say level message) (w'.say level' message') := by
  obtain ⟨rfl, log, last, rfl⟩ := h
  exact ⟨rfl, _, _, rfl⟩

theorem say_left (h : Alike base g w w') (level : Log.Level) (message : String) :
    Alike base g (w.say level message) w' := by
  obtain ⟨rfl, log, last, rfl⟩ := h
  exact ⟨rfl, _, _, rfl⟩

theorem keep (h : Alike base g w w') (r r' : CycleReport) :
    Alike base g { w with lastReport := some r } { w' with lastReport := some r' } := by
  obtain ⟨rfl, log, last, rfl⟩ := h
  exact ⟨rfl, _, _, rfl⟩

theorem note (h : Alike base g w w') (c : Call) : Alike base g (w.note c) (w'.note c) := by
  obtain ⟨rfl, log, last, rfl⟩ := h
  exact ⟨rfl, _, _, rfl⟩

theorem readClock (h : Alike base g w w') :
    w'.readClock.1 = w.readClock.1 ∧ Alike base g w.readClock.2 w'.readClock.2 := by
  obtain ⟨rfl, log, last, rfl⟩ := h
  exact ⟨rfl, rfl, _, _, rfl⟩

theorem shutdownNoted (h : Alike base g w w') (grace : Option Number) :
    Alike base g (w.shutdownNoted grace) (w'.shutdownNoted grace) := by
  obtain ⟨rfl, log, last, rfl⟩ := h
  obtain ⟨log₁, h₁⟩ := World.shutdown_world grace w
  obtain ⟨log₂, h₂⟩ := World.shutdown_world grace
    { w with script := { w.script with stepFault := g }, log, lastReport := last }
  unfold World.shutdownNoted
  rw [h₁, h₂]
  exact ⟨rfl, _, _, rfl⟩

theorem shutdowns (h : Alike base g w w') (gs : List (Option Number)) :
    Alike base g (gs.foldl World.shutdownNoted w) (gs.foldl World.shutdownNoted w') := by
  induction gs generalizing w w' with
  | nil => exact h
  | cons grace gs ih => exact ih (h.shutdownNoted grace)

theorem lacks (h : Alike base g w w') : w'.script.lacks = w.script.lacks := by
  obtain ⟨rfl, log, last, rfl⟩ := h
  rfl

theorem storeFault (h : Alike base g w w') : w'.script.storeFault = w.script.storeFault := by
  obtain ⟨rfl, log, last, rfl⟩ := h
  rfl

theorem shutdownsOf (h : Alike base g w w') : w'.script.shutdowns = w.script.shutdowns := by
  obtain ⟨rfl, log, last, rfl⟩ := h
  rfl

theorem listed (h : Alike base g w w') (status : Status) : w'.listed status = w.listed status := by
  obtain ⟨rfl, log, last, rfl⟩ := h
  rfl

theorem containers (h : Alike base g w w') : w'.containers = w.containers := by
  obtain ⟨rfl, log, last, rfl⟩ := h
  rfl

/-- The shutdowns during a call come in both worlds. -/
theorem during (h : Alike base g w w') (c : Call) :
    Alike base g ((w.script.shutdowns c).foldl World.shutdownNoted w)
      ((w'.script.shutdowns c).foldl World.shutdownNoted w') := by
  rw [h.shutdownsOf]
  exact h.shutdowns _

theorem happen (h : Alike base g w w') (c : Call) : Alike base g (w.happen c) (w'.happen c) :=
  (h.note c).during c

theorem check (h : Alike base g w w') (status : Status) (rule : StalenessRule) (l : Listed) :
    (w'.check status rule l).1 = (w.check status rule l).1 ∧
      Alike base g (w.check status rule l).2 (w'.check status rule l).2 := by
  obtain ⟨rfl, log, last, rfl⟩ := h
  rcases hread : w.clock.read with ⟨reading, clock⟩
  cases reading with
  | error f =>
    dsimp only [World.check, World.readClock]
    rw [hread]
    exact ⟨rfl, rfl, _, _, rfl⟩
  | ok now =>
    dsimp only [World.check, World.readClock]
    rw [hread]
    dsimp only
    split
    · exact ⟨rfl, rfl, _, _, rfl⟩
    · exact ⟨rfl, rfl, _, _, rfl⟩

theorem query (h : Alike base g w w') (status : Status) (rule : StalenessRule) :
    (w'.query status rule).1 = (w.query status rule).1 ∧
      Alike base g (w.query status rule).2 (w'.query status rule).2 := by
  have hh := h.happen (.query status rule.field rule.maxAge)
  unfold World.query
  rw [h.lacks]
  split
  next => exact ⟨rfl, h⟩
  next =>
    dsimp only
    rw [hh.storeFault]
    split
    · exact ⟨rfl, hh⟩
    · exact ⟨congrArg Except.ok (hh.listed status), hh⟩

/-! ### The steps of a remediation -/

theorem stepResult (h : Alike base g w w') (hg : base.stepFault = g) (step : RemediationStep)
    (id : Int) : w'.stepResult step id = w.stepResult step id := by
  obtain ⟨rfl, log, last, rfl⟩ := h
  unfold World.stepResult
  rw [hg]

/-- A cancelled execution changes in the same way. -/
theorem cancelled (h : Alike base g w w') (place : Nat) :
    Alike base g { w with executions := w.executions.modify place w.cancelled }
      { w' with executions := w'.executions.modify place w'.cancelled } := by
  obtain ⟨rfl, log, last, rfl⟩ := h
  exact ⟨rfl, _, _, rfl⟩

theorem cancel (h : Alike base g w w') (l : Listed) :
    Agreed base g (w.cancel l) (w'.cancel l) := by
  let c := Call.cancel l.execution.id l.execution.user
  have hend := ((h.note c).cancelled l.place).during c
  unfold World.cancel
  dsimp only
  rw [h.lacks]
  split
  next => exact ⟨h, fun _ => rfl⟩
  next => exact ⟨hend, fun hg => hend.stepResult hg _ _⟩

theorem restart (h : Alike base g w w') (l : Listed) (prior : Status) :
    Agreed base g (w.restart l prior) (w'.restart l prior) := by
  have hh := h.happen (.restart l.execution.id prior)
  unfold World.restart
  rw [h.lacks]
  split
  next => exact ⟨h, fun _ => rfl⟩
  next => exact ⟨hh, fun hg => hh.stepResult hg _ _⟩

theorem delete (h : Alike base g w w') (id : Int) : Agreed base g (w.delete id) (w'.delete id) := by
  have hh := h.happen (.delete id)
  unfold World.delete
  rw [h.containers, h.lacks]
  split
  next c hc =>
    obtain ⟨rfl, log, last, rfl⟩ := h
    exact ⟨⟨rfl, _, _, rfl⟩, fun _ => rfl⟩
  next =>
    split
    next => exact ⟨h, fun _ => rfl⟩
    next => exact ⟨hh, fun hg => hh.stepResult hg _ _⟩

theorem conclude (h : Alike base g w w') (step : RemediationStep) (what : String)
    (answer answer' : Except Failure Unit) :
    Alike base g (w.conclude step what answer).2 (w'.conclude step what answer').2 := by
  obtain ⟨rfl, log, last, rfl⟩ := h
  cases answer <;> cases answer' <;> exact ⟨rfl, _, _, rfl⟩

end Alike

theorem Agreed.conclude {base : Script} {g : Faults} {a b : Except Failure Unit × World}
    (h : Agreed base g a b) (step : RemediationStep) (what : String) :
    Agreed base g (a.2.conclude step what a.1) (b.2.conclude step what b.1) where
  alike := h.alike.conclude _ _ _ _
  eq := by
    intro hg
    rw [(World.conclude_eq _ _ _ _).1, (World.conclude_eq _ _ _ _).1, h.eq hg]

namespace Alike

variable {base : Script} {g : Faults} {w w' : World}

theorem cancelStep (h : Alike base g w w') (l : Listed) (prior : Status) :
    Agreed base g (w.cancelStep l prior) (w'.cancelStep l prior) :=
  ((h.say _ _ _ _).cancel l).conclude _ _

theorem restartStep (h : Alike base g w w') (l : Listed) (prior : Status) :
    Agreed base g (w.restartStep l prior) (w'.restartStep l prior) :=
  ((h.say _ _ _ _).restart l prior).conclude _ _

theorem deleteStep (h : Alike base g w w') (l : Listed) :
    Agreed base g (w.deleteStep l) (w'.deleteStep l) :=
  (h.delete l.execution.id).conclude _ _

/-- A remediation goes the same way, whichever of its steps fail. -/
theorem remediate (h : Alike base g w w') (l : Listed) :
    Agreed base g (w.remediate l) (w'.remediate l) := by
  have hc := h.cancelStep l l.execution.status
  have hr := hc.alike.restartStep l l.execution.status
  have hd := hr.alike.deleteStep l
  refine ⟨hd.alike, fun hg => ?_⟩
  unfold World.remediate
  dsimp only
  rw [hc.eq hg, hr.eq hg, hd.eq hg]

end Alike

/-! ## Reports that differ in how the steps went -/

/-- To `φ` the two reports look the same, apart from the entry for `gone`. -/
def Same (φ : Remediation → Remediation) (gone : Option Status) (r r' : CycleReport) : Prop :=
  r'.mapRemediations φ = (r.without gone).mapRemediations φ

namespace Same

variable {φ : Remediation → Remediation} {gone : Option Status} {r r' : CycleReport}

theorem scan (h : Same φ gone r r') (status : Status) :
    Same φ gone (r.scan status) (r'.scan status) :=
  congrArg (fun r : CycleReport => r.scan status) h

theorem skip (h : Same φ gone r r') (id : Int) : Same φ gone (r.skip id) (r'.skip id) :=
  congrArg (fun r : CycleReport => r.skip id) h

theorem undecided (h : Same φ gone r r') (id : Int) (why : String) :
    Same φ gone (r.undecided id why) (r'.undecided id why) :=
  congrArg (fun r : CycleReport => r.undecided id why) h

theorem cutShort (h : Same φ gone r r') : Same φ gone r.cutShort r'.cutShort :=
  congrArg CycleReport.cutShort h

theorem finished (h : Same φ gone r r') (finish : Option Moment) :
    Same φ gone { r with finishedAt := finish } { r' with finishedAt := finish } := by
  have h' := congrArg (fun r : CycleReport => { r with finishedAt := finish }) h
  exact h'

theorem remediated (h : Same φ gone r r') {ms ms' : List Remediation} (hm : ms'.map φ = ms.map φ) :
    Same φ gone (r.remediated ms) (r'.remediated ms') := by
  have hmap (r : CycleReport) (ms : List Remediation) :
      (r.remediated ms).mapRemediations φ = (r.mapRemediations φ).remediated (ms.map φ) := by
    simp [CycleReport.remediated, CycleReport.mapRemediations]
  have hw : (r.remediated ms).without gone = (r.without gone).remediated ms := rfl
  unfold Same at h ⊢
  rw [hw, hmap, hmap, hm, h]

theorem queryFailed (h : Same φ gone r r') {status : Status} (hs : gone ≠ some status)
    (why : String) : Same φ gone (r.queryFailed status why) (r'.queryFailed status why) := by
  unfold Same at h ⊢
  rw [CycleReport.without_queryFailed, if_neg hs]
  exact congrArg (fun r : CycleReport => r.queryFailed status why) h

/-- The entry for `gone` is not looked at. -/
theorem queryFailed_gone (h : Same φ gone r r') {status : Status} (hs : gone = some status)
    (why : String) : Same φ gone (r.queryFailed status why) r' := by
  unfold Same at h ⊢
  rw [CycleReport.without_queryFailed, if_pos hs, h]

end Same

/-! ## Cycles side by side -/

/-- The executions in a state cannot be listed. -/
def Script.unlistable (k : Script) (status : Status) : Prop :=
  k.lacks .store = true ∨ (k.storeFault status).isSome = true

theorem query_of_unlistable {w : World} {status : Status} (h : w.script.unlistable status)
    (rule : StalenessRule) : ∃ f, (w.query status rule).1 = .error f := by
  unfold World.query
  split
  next => exact ⟨_, rfl⟩
  next hl =>
    obtain ⟨why, hwhy⟩ := Option.isSome_iff_exists.1 (h.resolve_left hl)
    have hs : (w.happen (.query status rule.field rule.maxAge)).script = w.script :=
      (World.shutdowns_made _ (w.note _)).script
    dsimp only
    rw [hs, hwhy]
    exact ⟨_, rfl⟩

/-- Two parts of cycles that went the same way. -/
structure Parallel (φ : Remediation → Remediation) (gone : Option Status) (base : Script)
    (g : Faults) (a b : CycleReport × World) : Prop where
  report : Same φ gone a.1 b.1
  world : Alike base g a.2 b.2

section

variable {φ : Remediation → Remediation} {gone : Option Status} {base : Script} {g : Faults}
  {r r' : CycleReport} {w w' : World}

/-- What `φ` keeps of a remediation does not hang on which steps fail. -/
def Blind (φ : Remediation → Remediation) (base : Script) (g : Faults) : Prop :=
  ∀ w w' l, Alike base g w w' → φ (w'.remediate l).1 = φ (w.remediate l).1

theorem reapOne_parallel (hφ : Blind φ base g) (hr : Same φ gone r r') (h : Alike base g w w')
    (status : Status) (rule : StalenessRule) (l : Listed) :
    Parallel φ gone base g (World.reapOne status rule l r w) (World.reapOne status rule l r' w') := by
  obtain ⟨hanswer, hworld⟩ := h.check status rule l
  unfold World.reapOne
  rcases hc : w.check status rule l with ⟨answer, u⟩
  rcases hc' : w'.check status rule l with ⟨answer', u'⟩
  rw [hc, hc'] at hanswer hworld
  obtain rfl : answer' = answer := hanswer
  match answer' with
  | .error f => exact ⟨(hr.undecided _ _).skip _, hworld.say _ _ _ _⟩
  | .ok .stale =>
    have hm := hφ u u' l hworld
    exact ⟨hr.remediated (by simpa using hm), (hworld.remediate l).alike⟩
  | .ok .fresh => exact ⟨hr.skip _, hworld⟩
  | .ok .debugged => exact ⟨hr.skip _, hworld⟩

theorem reapListed_parallel (hφ : Blind φ base g) (hr : Same φ gone r r') (h : Alike base g w w')
    (status : Status) (rule : StalenessRule) (ls : List Listed) :
    Parallel φ gone base g (World.reapListed status rule ls r w)
      (World.reapListed status rule ls r' w') := by
  induction ls generalizing r r' w w' with
  | nil => exact ⟨hr, h⟩
  | cons l ls ih =>
    unfold World.reapListed
    rw [h.cancelling]
    split
    · exact ⟨hr.cutShort.remediated rfl, h⟩
    · have hone := reapOne_parallel hφ hr h status rule l
      exact ih hone.report hone.world

/-- For `gone` one cycle hears of a failure and the other of no executions. -/
theorem reapStatusBy_parallel (hφ : Blind φ base g) (hgone : ∀ s, gone = some s → base.unlistable s)
    (hr : Same φ gone r r') (h : Alike base g w w') (status : Status) (rule : StalenessRule) :
    Parallel φ gone base g (World.reapStatus status rule r w)
      (World.reapStatusBy (World.emptied gone) status rule r' w') := by
  let message := "Cleaning up stale flows for status: " ++ status.name
  have hsay := h.say Log.info Log.info message message
  have hunlisted (hs : gone = some status) :
      ∃ f, ((w.say Log.info message).query status rule).1 = .error f :=
    query_of_unlistable (hsay.script ▸ hgone status hs) rule
  obtain ⟨hanswer, hworld⟩ := hsay.query status rule
  unfold World.reapStatus World.reapStatusBy World.emptied
  dsimp only
  rcases hq : (w.say Log.info message).query status rule with ⟨answer, u⟩
  rcases hq' : (w'.say Log.info message).query status rule with ⟨answer', u'⟩
  rw [hq] at hunlisted
  rw [hq, hq'] at hanswer hworld
  obtain rfl : answer' = answer := hanswer
  by_cases hs : gone = some status
  · obtain ⟨f, rfl⟩ := hunlisted hs
    rw [if_pos hs]
    exact ⟨(hr.scan status).queryFailed_gone hs _, hworld.say_left _ _⟩
  · rw [if_neg hs]
    cases answer' with
    | error f => exact ⟨(hr.scan status).queryFailed hs _, hworld.say _ _ _ _⟩
    | ok ls => exact reapListed_parallel hφ (hr.scan status) hworld status rule ls

theorem reapStatusesBy_parallel (hφ : Blind φ base g)
    (hgone : ∀ s, gone = some s → base.unlistable s) (hr : Same φ gone r r')
    (h : Alike base g w w') (rs : List (Status × StalenessRule)) :
    Parallel φ gone base g (World.reapStatuses rs r w)
      (World.reapStatusesBy (World.emptied gone) rs r' w') := by
  induction rs generalizing r r' w w' with
  | nil => exact ⟨hr, h⟩
  | cons row rs ih =>
    unfold World.reapStatuses World.reapStatusesBy
    rw [h.cancelling]
    split
    · exact ⟨hr.cutShort, h⟩
    · have hone := reapStatusBy_parallel hφ hgone hr h row.1 row.2
      exact ih hone.report hone.world

theorem reapCycleBy_parallel (hφ : Blind φ base g) (hgone : ∀ s, gone = some s → base.unlistable s)
    (h : Alike base g w w') :
    (World.reapCycleBy (World.emptied gone) w').1.map (CycleReport.mapRemediations φ) =
        w.reapCycle.1.map (fun r => (r.without gone).mapRemediations φ) ∧
      Alike base g w.reapCycle.2 (World.reapCycleBy (World.emptied gone) w').2 := by
  obtain ⟨hstart, hworld⟩ := h.readClock
  unfold World.reapCycleBy World.reapCycle
  rcases hc : w.readClock with ⟨start, u⟩
  rcases hc' : w'.readClock with ⟨start', u'⟩
  rw [hc, hc'] at hstart hworld
  obtain rfl : start' = start := hstart
  cases start' with
  | error f => exact ⟨rfl, hworld⟩
  | ok startedAt =>
    have hsame : Same φ gone { startedAt } { startedAt } := rfl
    have hmid := reapStatusesBy_parallel hφ hgone hsame hworld u.policy.monitoredRules
    dsimp only
    rw [hworld.monitoredRules]
    rcases hm : World.reapStatuses u.policy.monitoredRules { startedAt } u with ⟨r, v⟩
    rcases hm' : World.reapStatusesBy (World.emptied gone) u.policy.monitoredRules { startedAt } u'
      with ⟨r', v'⟩
    rw [hm, hm'] at hmid
    obtain ⟨hfinish, hend⟩ := hmid.world.readClock
    dsimp only at hfinish hend ⊢
    rcases hf : v.readClock with ⟨finish, z⟩
    rcases hf' : v'.readClock with ⟨finish', z'⟩
    rw [hf, hf'] at hfinish hend
    obtain rfl : finish' = finish := hfinish
    cases finish' with
    | error f => exact ⟨rfl, hend⟩
    | ok finishedAt =>
      exact ⟨congrArg Except.ok (hmid.report.finished finishedAt), hend.keep _ _ |>.say _ _ _ _⟩

/-- All that a remediation shows apart from how its steps went is which execution it is about. -/
theorem outline_of_tried {l : Listed} {m m' : Remediation} (h : World.Tried l m)
    (h' : World.Tried l m') : m'.outline = m.outline := by
  have hsteps {m : Remediation} (hm : World.Tried l m) : m.steps.map StepResult.outline =
      RemediationStep.all.map fun step => ⟨step, .success, none⟩ := by
    rw [← hm.steps, List.map_map]
    exact List.map_congr_left fun s hs => if_neg (hm.called s hs)
  rw [Remediation.outline, Remediation.outline, hsteps h, hsteps h', h.id, h'.id, h.statusBefore,
    h'.statusBefore]

theorem blind_outline : Blind Remediation.outline base g :=
  fun w w' l _ => outline_of_tried (w.remediate_tried l) (w'.remediate_tried l)

/-- Where the same steps fail, remediations are the same. -/
theorem blind_id (h : base.stepFault = g) : Blind id base g :=
  fun _ _ l ha => (ha.remediate l).eq h

end

/-! ## Isolation -/

/-- What two cycles share that differ in which steps fail. -/
structure Indistinct (a b : Except Failure CycleReport × World) : Prop where
  report : b.1.map CycleReport.outline = a.1.map CycleReport.outline
  /-- The same requests, with the same arguments and in the same order. -/
  calls : b.2.calls = a.2.calls
  /-- The clock, with how often it was read. -/
  clock : b.2.clock = a.2.clock
  executions : b.2.executions = a.2.executions
  service : b.2.service = a.2.service
  containers : b.2.containers = a.2.containers

/-- A failure stays where it happens, for two choices of the steps that fail. -/
structure Isolated (w : World) (f g : Faults) : Prop where
  indistinct : Indistinct (w.under f).reapCycle (w.under g).reapCycle
  /-- Where the reports differ they say how each request went. -/
  faithful : ∀ r w', (w.under f).reapCycle = (.ok r, w') → ∃ ts, Faithful (w.under f) r w' ts
  faithful' : ∀ r w', (w.under g).reapCycle = (.ok r, w') → ∃ ts, Faithful (w.under g) r w' ts
  /-- A state whose executions cannot be listed is like one without executions, but for its entry
  in the report, and in the report that is kept. -/
  unlisted : ∀ status, w.script.unlistable status → ∃ log last,
    World.reapCycleBy (World.emptied (some status)) (w.under f) =
        ((w.under f).reapCycle.1.map (CycleReport.without (some status)),
          { (w.under f).reapCycle.2 with log, lastReport := last }) ∧
      ∀ r, (w.under f).reapCycle.1 = .ok r → last = some (r.without (some status))

theorem reapCycle_indistinct (w : World) (f g : Faults) :
    Indistinct (w.under f).reapCycle (w.under g).reapCycle := by
  have hgone : ∀ s, none = some s → (w.under f).script.unlistable s := by simp
  obtain ⟨hreport, halike⟩ := reapCycleBy_parallel blind_outline hgone (Alike.of_under w f g)
  simp only [World.emptied_none, World.reapCycleBy_query, CycleReport.without_none]
    at hreport halike
  obtain ⟨-, log, last, hworld⟩ := halike
  exact ⟨hreport, by rw [hworld], by rw [hworld], by rw [hworld], by rw [hworld], by rw [hworld]⟩

theorem reapCycleBy_lastReport {ask : World.Asking} {w : World} {r : CycleReport}
    (h : (World.reapCycleBy ask w).1 = .ok r) : (World.reapCycleBy ask w).2.lastReport = some r := by
  unfold World.reapCycleBy at h ⊢
  split at h
  next => cases h
  next =>
    dsimp only at h ⊢
    split at h
    next => cases h
    next =>
      cases h
      rfl

/-- A state whose executions cannot be listed is like one without executions. -/
theorem reapCycle_unlisted {w : World} {status : Status} (h : w.script.unlistable status) :
    ∃ log last, World.reapCycleBy (World.emptied (some status)) w =
        (w.reapCycle.1.map (CycleReport.without (some status)),
          { w.reapCycle.2 with log, lastReport := last }) ∧
      ∀ r, w.reapCycle.1 = .ok r → last = some (r.without (some status)) := by
  have hgone : ∀ s, some status = some s → w.script.unlistable s := by
    rintro s ⟨⟩
    exact h
  obtain ⟨hreport, hscript, log, last, hworld⟩ :=
    reapCycleBy_parallel (blind_id rfl) hgone (Alike.refl w)
  have hid : CycleReport.mapRemediations id = id := funext CycleReport.mapRemediations_id
  have hanswer : (World.reapCycleBy (World.emptied (some status)) w).1 =
      w.reapCycle.1.map (CycleReport.without (some status)) := by
    simpa [hid, Except.map_id, CycleReport.mapRemediations_id] using hreport
  refine ⟨log, last, Prod.ext hanswer ?_, ?_⟩
  · rw [hworld, ← hscript]
  · intro r hr
    rw [hr] at hanswer
    have hlast := reapCycleBy_lastReport hanswer
    rwa [hworld] at hlast

/-- Failures stay where they happen, whichever steps fail. -/
theorem reapCycle_isolated (w : World) (f g : Faults) : Isolated w f g where
  indistinct := reapCycle_indistinct w f g
  faithful := by
    intro r w' h
    obtain ⟨ts, hcourse, hattempted, hpending⟩ := World.reapCycle_course h
    exact ⟨ts, hcourse.faithful hattempted hpending⟩
  faithful' := by
    intro r w' h
    obtain ⟨ts, hcourse, hattempted, hpending⟩ := World.reapCycle_course h
    exact ⟨ts, hcourse.faithful hattempted hpending⟩
  unlisted := fun _ h => reapCycle_unlisted h

/-- In the cycle that is cut short the canceller may fail or not, and the state that cannot be
listed may as well be empty. -/
theorem interrupted_isolated :
    (interrupted.reapCycle.1 = .ok interruptedReport ∧
        (interrupted.under faltering.script.stepFault).reapCycle.1 = .ok falteringReport ∧
        interrupted.script.unlistable .dispatching) ∧
      Isolated interrupted interrupted.script.stepFault faltering.script.stepFault ∧
      (World.reapCycleBy (World.emptied (some .dispatching)) interrupted).1 =
        .ok { interruptedReport with queryErrors := [] } := by
  have h := reapCycle_isolated interrupted interrupted.script.stepFault faltering.script.stepFault
  have hgone : interrupted.script.unlistable .dispatching := .inr rfl
  refine ⟨⟨rfl, rfl, hgone⟩, h, ?_⟩
  obtain ⟨log, last, hcycle, -⟩ := h.unlisted .dispatching hgone
  exact congrArg Prod.fst hcycle

end Reaper

end FlowWarden
