import FlowWarden.Reaper.Cycle
/-!
# The requests of a cycle

`Made w cs w'` sums up a part of a cycle from outside: between `w` and `w'` the requests `cs` were
made, in this order, and no others; the worker was touched by shutdowns only; and the policy and
the script stayed. Every operation of a cycle has one such lemma, and they are chained by
`Made.trans`, so later proofs do not look at the operations again.
-/

namespace FlowWarden.Reaper

namespace Call

/-- Whether a call goes to a collaborator. -/
def isRequest : Call → Bool
  | query .. | cancel .. | restart .. | delete _ => true
  | shutdown _ | join _ | startWorker => false

def isQuery : Call → Bool
  | query .. => true
  | _ => false

end Call

namespace World

/-- Whether a request shows in the calls. A missing collaborator keeps no record, and neither does
the cluster, which answers for the containers where there is one. -/
def records (w : World) : Call → Bool
  | .query .. => !w.script.lacks .store
  | .cancel .. => !w.script.lacks .canceller
  | .restart .. => !w.script.lacks .restarter
  | .delete _ => w.containers.isNone && !w.script.lacks .deleter
  | _ => false

def afterShutdown (s : Service) (grace : Float) : Service :=
  (s.shutdown grace).service

/-- The requests `cs` were made from `w` to `w'`. -/
structure Made (w : World) (cs : List Call) (w' : World) : Prop where
  policy : w'.policy = w.policy
  script : w'.script = w.script
  cluster : w'.containers.isNone = w.containers.isNone
  service : ∃ gs : List Float, w'.service = gs.foldl afterShutdown w.service
  calls : ∃ new, w'.calls = w.calls ++ new ∧ new.filter Call.isRequest = cs.filter w.records

namespace Made

variable {w w' w'' : World} {cs cs' : List Call}

theorem records_eq (h : Made w cs w') : w'.records = w.records := by
  funext c
  cases c <;> simp only [records, h.script, h.cluster]

theorem refl (w : World) : Made w [] w :=
  ⟨rfl, rfl, rfl, ⟨[], rfl⟩, [], by simp⟩

theorem trans (h : Made w cs w') (h' : Made w' cs' w'') : Made w (cs ++ cs') w'' := by
  obtain ⟨gs, hg⟩ := h.service
  obtain ⟨gs', hg'⟩ := h'.service
  obtain ⟨new, hn, hf⟩ := h.calls
  obtain ⟨new', hn', hf'⟩ := h'.calls
  refine ⟨h'.policy.trans h.policy, h'.script.trans h.script, h'.cluster.trans h.cluster,
    ⟨gs ++ gs', ?_⟩, new ++ new', ?_, ?_⟩
  · -- The shutdowns of both parts, one after another.
    rw [hg', hg, List.foldl_append]
  · rw [hn', hn, List.append_assoc]
  · rw [List.filter_append, List.filter_append, hf, hf', h.records_eq]

/-- What touches neither the worker nor the calls makes no request. -/
theorem quiet (policy : w'.policy = w.policy) (script : w'.script = w.script)
    (cluster : w'.containers.isNone = w.containers.isNone) (service : w'.service = w.service)
    (calls : w'.calls = w.calls) : Made w [] w' :=
  ⟨policy, script, cluster, ⟨[], service⟩, [], by simp [calls]⟩

end Made

/-! ## The log and the clock -/

theorem say_made (w : World) (level : Log.Level) (message : String) :
    Made w [] (w.say level message) :=
  .quiet rfl rfl rfl rfl rfl

theorem readClock_made (w : World) : Made w [] w.readClock.2 :=
  .quiet rfl rfl rfl rfl rfl

/-- A decision reads the clock and may say something. -/
theorem check_world {w w' : World} {status : Status} {rule : StalenessRule} {l : Listed}
    {answer : Except Failure Verdict} (h : w.check status rule l = (answer, w')) :
    ∃ clock log, w' = { w with clock, log } := by
  have hr : w.readClock.2 = { w with clock := w.clock.read.2 } := rfl
  obtain rfl : (w.check status rule l).2 = w' := congrArg Prod.snd h
  unfold check
  split
  next f w₁ h₁ =>
    rw [h₁] at hr
    exact ⟨_, _, hr⟩
  next now w₁ h₁ =>
    rw [h₁] at hr
    obtain rfl : w₁ = _ := hr
    split
    · exact ⟨_, _, rfl⟩
    · exact ⟨_, _, rfl⟩

theorem check_made {w w' : World} {status : Status} {rule : StalenessRule} {l : Listed}
    {answer : Except Failure Verdict} (h : w.check status rule l = (answer, w')) : Made w [] w' := by
  obtain ⟨clock, log, rfl⟩ := check_world h
  exact .quiet rfl rfl rfl rfl rfl

theorem check_service {w w' : World} {status : Status} {rule : StalenessRule} {l : Listed}
    {answer : Except Failure Verdict} (h : w.check status rule l = (answer, w')) :
    w'.service = w.service := by
  obtain ⟨clock, log, rfl⟩ := check_world h
  rfl

theorem conclude_made (w : World) (step : RemediationStep) (what : String)
    (result : Except Failure Unit) : Made w [] (w.conclude step what result).2 := by
  cases result with
  | ok => exact .refl w
  | error f => exact say_made _ _ _

/-! ## Shutdowns -/

/-- A shutdown changes the worker, notes its waits, and says something. -/
theorem shutdown_world (grace : Option Number) (w : World) :
    let r := w.service.shutdown (grace.getD w.grace).toFloat
    ∃ log, w.shutdown grace =
      (r.stopped, { w with service := r.service, calls := w.calls ++ r.joins.map Call.join, log }) := by
  dsimp only [shutdown]
  split <;> split <;> exact ⟨_, rfl⟩

theorem shutdown_service (grace : Option Number) (w : World) :
    (w.shutdown grace).2.service = (w.service.shutdown (grace.getD w.grace).toFloat).service := by
  obtain ⟨log, h⟩ := shutdown_world grace w
  rw [h]

/-- A shutdown is no request: what it adds to the calls are waits. -/
theorem shutdown_made (grace : Option Number) (w : World) : Made w [] (w.shutdown grace).2 := by
  obtain ⟨log, h⟩ := shutdown_world grace w
  rw [h]
  refine ⟨rfl, rfl, rfl, ⟨[_], rfl⟩, _, rfl, ?_⟩
  simp [List.filter_map, Function.comp_def, Call.isRequest]

theorem shutdownNoted_made (w : World) (grace : Option Number) : Made w [] (w.shutdownNoted grace) := by
  have hn (u : World) (stopped : Bool) : Made u [] (u.note (.shutdown stopped)) :=
    ⟨rfl, rfl, rfl, ⟨[], rfl⟩, [.shutdown stopped], rfl, rfl⟩
  exact (w.shutdown_made grace).trans (hn _ _)

theorem shutdowns_made (gs : List (Option Number)) (w : World) :
    Made w [] (gs.foldl shutdownNoted w) := by
  induction gs generalizing w with
  | nil => exact .refl w
  | cons g gs ih => exact (w.shutdownNoted_made g).trans (ih _)

/-! ## Requests -/

theorem note_made {w : World} {c : Call} (hc : c.isRequest = true) (hr : w.records c = true) :
    Made w [c] (w.note c) :=
  ⟨rfl, rfl, rfl, ⟨[], rfl⟩, [c], rfl, by simp [hc, hr]⟩

theorem happen_made {w : World} {c : Call} (hc : c.isRequest = true) (hr : w.records c = true) :
    Made w [c] (w.happen c) :=
  (note_made hc hr).trans (shutdowns_made _ _)

/-- A request that leaves no record. -/
theorem unrecorded_made {w : World} {c : Call} (hr : w.records c = false) : Made w [c] w :=
  ⟨rfl, rfl, rfl, ⟨[], rfl⟩, [], by simp [hr]⟩

theorem query_made {w w' : World} {status : Status} {rule : StalenessRule}
    {answer : Except Failure (List Listed)} (h : w.query status rule = (answer, w')) :
    Made w [.query status rule.field rule.maxAge] w' := by
  obtain rfl : (w.query status rule).2 = w' := congrArg Prod.snd h
  unfold query
  split
  next hl => exact unrecorded_made (by simp [records, hl])
  next hl =>
    have hm := happen_made (w := w) (c := .query status rule.field rule.maxAge) rfl
      (by simp [records, hl])
    dsimp only
    split <;> exact hm

def cancelCall (l : Listed) : Call := .cancel l.execution.id l.execution.user

theorem cancel_made (w : World) (l : Listed) : Made w [cancelCall l] (w.cancel l).2 := by
  unfold cancel
  split
  next h => exact unrecorded_made (by simp [cancelCall, records, h])
  next h =>
    have hn := note_made (w := w) (c := cancelCall l) rfl (by simp [cancelCall, records, h])
    have hq (u : World) (es : List Execution) : Made u [] { u with executions := es } :=
      .quiet rfl rfl rfl rfl rfl
    exact hn.trans ((hq _ _).trans (shutdowns_made _ _))

theorem restart_made (w : World) (l : Listed) (prior : Status) :
    Made w [.restart l.execution.id prior] (w.restart l prior).2 := by
  unfold restart
  split
  next h => exact unrecorded_made (by simp [records, h])
  next h => exact happen_made rfl (by simp [records, h])

theorem delete_made (w : World) (id : Int) : Made w [.delete id] (w.delete id).2 := by
  unfold delete
  split
  next c h =>
    -- The cluster answers, and keeps no record among the calls.
    exact ⟨rfl, rfl, by simp [h], ⟨[], rfl⟩, [], by simp [records, h]⟩
  next h =>
    split
    next hl => exact unrecorded_made (by simp [records, hl])
    next hl => exact happen_made rfl (by simp [records, h, hl])

/-! ## The steps of a remediation -/

theorem cancelStep_made (w : World) (l : Listed) (prior : Status) :
    Made w [cancelCall l] (w.cancelStep l prior).2 :=
  (say_made _ _ _).trans ((cancel_made _ l).trans (conclude_made _ _ _ _))

theorem restartStep_made (w : World) (l : Listed) (prior : Status) :
    Made w [.restart l.execution.id prior] (w.restartStep l prior).2 :=
  (say_made _ _ _).trans ((restart_made _ l prior).trans (conclude_made _ _ _ _))

theorem deleteStep_made (w : World) (l : Listed) :
    Made w [.delete l.execution.id] (w.deleteStep l).2 :=
  (delete_made _ _).trans (conclude_made _ _ _ _)

/-- The requests of a remediation. -/
def remedyCalls (l : Listed) : List Call :=
  [cancelCall l, .restart l.execution.id l.execution.status, .delete l.execution.id]

theorem remediate_made (w : World) (l : Listed) : Made w (remedyCalls l) (w.remediate l).2 :=
  (cancelStep_made _ l _).trans ((restartStep_made _ l _).trans (deleteStep_made _ l))

/-- The result of a step that was called. -/
def Called (step : RemediationStep) (s : StepResult) : Prop :=
  s.step = step ∧ s.outcome ≠ .skipped

theorem conclude_called (w : World) (step : RemediationStep) (what : String)
    (result : Except Failure Unit) : Called step (w.conclude step what result).1 := by
  cases result <;> simp [conclude, Called]

theorem cancelStep_called (w : World) (l : Listed) (prior : Status) :
    Called .cancel (w.cancelStep l prior).1 :=
  conclude_called _ _ _ _

theorem restartStep_called (w : World) (l : Listed) (prior : Status) :
    Called .restart (w.restartStep l prior).1 :=
  conclude_called _ _ _ _

theorem deleteStep_called (w : World) (l : Listed) : Called .deleteContainer (w.deleteStep l).1 :=
  conclude_called _ _ _ _

/-- The remediation of an execution whose three steps were all called. -/
structure Tried (l : Listed) (m : Remediation) : Prop where
  id : m.id = l.execution.id
  statusBefore : m.statusBefore = l.execution.status
  steps : m.steps.map StepResult.step = RemediationStep.all
  called : ∀ s ∈ m.steps, s.outcome ≠ .skipped

theorem tried_of_called {l : Listed} {c r d : StepResult} (hc : Called .cancel c)
    (hr : Called .restart r) (hd : Called .deleteContainer d) :
    Tried l ⟨l.execution.id, l.execution.status, [c, r, d]⟩ where
  id := rfl
  statusBefore := rfl
  steps := by simp [hc.1, hr.1, hd.1, RemediationStep.all]
  called := by
    simp only [List.mem_cons, List.not_mem_nil, or_false]
    rintro s (rfl | rfl | rfl)
    · exact hc.2
    · exact hr.2
    · exact hd.2

theorem remediate_tried (w : World) (l : Listed) : Tried l (w.remediate l).1 :=
  tried_of_called (cancelStep_called _ l _) (restartStep_called _ l _) (deleteStep_called _ l)

theorem Tried.attempted {l : Listed} {m : Remediation} (h : Tried l m) : m.attempted = true := by
  obtain ⟨s, ss, hs⟩ : ∃ s ss, m.steps = s :: ss := by
    cases hm : m.steps with
    | nil => exact absurd h.steps (by simp [hm, RemediationStep.all])
    | cons s ss => exact ⟨s, ss, rfl⟩
  have hn := h.called s (by simp [hs])
  simp [Remediation.attempted, hs, hn]

theorem pending_attempted (l : Listed) : (pending l).attempted = false := by
  simp [pending, Remediation.notAttempted, Remediation.attempted]

/-! ## A cycle between its readings of the clock -/

/-- A cycle that returns deals with the states between two readings of the clock. -/
theorem reapCycle_eq_ok {w w' : World} {r : CycleReport} (h : w.reapCycle = (.ok r, w')) :
    ∃ start w₀ r₀ w₁ finish w₂, w.readClock = (.ok start, w₀) ∧
      reapStatuses w.policy.monitoredRules { startedAt := start } w₀ = (r₀, w₁) ∧
      w₁.readClock = (.ok finish, w₂) ∧ r = { r₀ with finishedAt := some finish } ∧
      w' = { w₂ with lastReport := some r }.say Log.info (summary r) := by
  have hpolicy := w.readClock_made.policy
  unfold reapCycle at h
  split at h
  next => simp at h
  next start w₀ hstart =>
    rw [hstart] at hpolicy
    rw [hpolicy] at h
    dsimp only at h
    split at h
    next => simp at h
    next finish w₂ hfinish =>
      simp only [Prod.mk.injEq, Except.ok.injEq] at h
      obtain ⟨rfl, rfl⟩ := h
      exact ⟨start, w₀, _, _, finish, w₂, hstart, rfl, hfinish, rfl, rfl⟩

end World

end FlowWarden.Reaper
