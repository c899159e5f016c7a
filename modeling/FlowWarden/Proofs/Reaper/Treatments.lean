import FlowWarden.Proofs.Reaper.Account
/-!
# The report and the requests

The report of a cycle is an exact account of what the controllers were asked: `reapCycle_faithful`.
A `Treatment` holds the three requests for one execution with their answers, and `Course` follows
the treatments of a cycle from world to world. Each request is made for an execution as the store
has it at that moment, so the state that a restart is told is the one before the cancellation.
-/

namespace FlowWarden.Reaper

/-- Whether a call goes to a controller. -/
def Call.isControl : Call → Bool
  | cancel .. | restart .. | delete _ => true
  | query .. | shutdown _ | join _ | startWorker => false

/-- The requests for one execution, by what they came to. -/
structure Treatment where
  listed : Listed
  answer : RemediationStep → Except Failure Unit

/-- How a report shows the answer to a step. -/
def reported (step : RemediationStep) : Except Failure Unit → StepResult
  | .ok () => ⟨step, .success, none⟩
  | .error f => ⟨step, .failed, some f.message⟩

namespace Treatment

def calls (t : Treatment) : List Call :=
  World.remedyCalls t.listed

def remediation (t : Treatment) : Remediation :=
  ⟨t.listed.execution.id, t.listed.execution.status,
    RemediationStep.all.map fun step => reported step (t.answer step)⟩

end Treatment

/-- From `w` to `w'` the reaper asked nobody: it read the clock, wrote its log or kept a report. -/
def Quiet (w w' : World) : Prop :=
  ∃ clock log lastReport, w' = { w with clock, log, lastReport }

/-- The requests of a treatment are made one after another, with nothing else asked in between. -/
structure Treated (w : World) (t : Treatment) (w' : World) : Prop where
  /-- The store has the execution as the treatment has it, in the state before the cancellation. -/
  inPlace : w.executions[t.listed.place]? = some t.listed.execution
  requests : ∃ w₁ v₁ w₂ v₂, w.cancel t.listed = (t.answer .cancel, w₁) ∧ Quiet w₁ v₁ ∧
    v₁.restart t.listed t.listed.execution.status = (t.answer .restart, w₂) ∧ Quiet w₂ v₂ ∧
    v₂.delete t.listed.execution.id = (t.answer .deleteContainer, w')

/-- Treatments one after another. Apart from them only the store is asked. -/
inductive Course : World → List Treatment → World → Prop
  | nil {w} : Course w [] w
  | quiet {w w' w'' ts} : Quiet w w' → Course w' ts w'' → Course w ts w''
  | query {w w' w'' ts status rule answer} : w.query status rule = (answer, w') → Course w' ts w'' →
      Course w ts w''
  | treat {w w' w'' t ts} : Treated w t w' → Course w' ts w'' → Course w (t :: ts) w''

theorem Course.append {w w' w'' : World} {ts us : List Treatment} (h : Course w ts w')
    (h' : Course w' us w'') : Course w (ts ++ us) w'' := by
  induction h with
  | nil => exact h'
  | quiet hq _ ih => exact .quiet hq (ih h')
  | query hq _ ih => exact .query hq (ih h')
  | treat ht _ ih => exact .treat ht (ih h')

theorem Course.of_quiet {w w' : World} (h : Quiet w w') : Course w [] w' :=
  .quiet h .nil

theorem Quiet.trans {w w' w'' : World} (h : Quiet w w') (h' : Quiet w' w'') : Quiet w w'' := by
  obtain ⟨clock, log, last, rfl⟩ := h
  obtain ⟨clock', log', last', rfl⟩ := h'
  exact ⟨clock', log', last', rfl⟩

theorem say_quiet (w : World) (level : Log.Level) (message : String) : Quiet w (w.say level message) :=
  ⟨_, _, _, rfl⟩

/-! ## The requests of a course -/

theorem Quiet.made {w w' : World} (h : Quiet w w') : w.Made [] w' := by
  obtain ⟨clock, log, last, rfl⟩ := h
  exact .quiet rfl rfl rfl rfl rfl

theorem Treated.made {w w' : World} {t : Treatment} (h : Treated w t w') : w.Made t.calls w' := by
  obtain ⟨w₁, v₁, w₂, v₂, hc, hq₁, hr, hq₂, hd⟩ := h.requests
  have hcancel := w.cancel_made t.listed
  have hrestart := v₁.restart_made t.listed t.listed.execution.status
  have hdelete := v₂.delete_made t.listed.execution.id
  rw [hc] at hcancel
  rw [hr] at hrestart
  rw [hd] at hdelete
  exact hcancel.trans (hq₁.made.trans (hrestart.trans (hq₂.made.trans hdelete)))

/-- A course makes the requests of its treatments, and none to another controller. -/
theorem Course.made {w w' : World} {ts : List Treatment} (h : Course w ts w') :
    ∃ cs, w.Made cs w' ∧ cs.filter Call.isControl = ts.flatMap Treatment.calls := by
  induction h with
  | nil => exact ⟨[], .refl _, rfl⟩
  | quiet hq _ ih =>
    obtain ⟨cs, hm, hcs⟩ := ih
    exact ⟨cs, hq.made.trans hm, hcs⟩
  | query hq _ ih =>
    obtain ⟨cs, hm, hcs⟩ := ih
    exact ⟨_ :: cs, (World.query_made hq).trans hm, hcs⟩
  | @treat _ _ _ t _ ht _ ih =>
    obtain ⟨cs, hm, hcs⟩ := ih
    refine ⟨t.calls ++ cs, ht.made.trans hm, ?_⟩
    rw [List.filter_append, hcs, List.flatMap_cons]
    rfl

/-! ## What requests do to the executions -/

namespace World

theorem shutdowns_executions (gs : List (Option Number)) (w : World) :
    (gs.foldl shutdownNoted w).executions = w.executions := by
  induction gs generalizing w with
  | nil => rfl
  | cons g gs ih =>
    have hone : (w.shutdownNoted g).executions = w.executions := by
      obtain ⟨log, h⟩ := shutdown_world g w
      simp [shutdownNoted, h, note]
    rw [List.foldl_cons, ih, hone]

theorem happen_executions (w : World) (c : Call) : (w.happen c).executions = w.executions :=
  shutdowns_executions _ _

theorem query_executions {w w' : World} {status : Status} {rule : StalenessRule}
    {answer : Except Failure (List Listed)} (h : w.query status rule = (answer, w')) :
    w'.executions = w.executions := by
  obtain rfl : (w.query status rule).2 = w' := congrArg Prod.snd h
  unfold query
  split
  next => rfl
  next =>
    dsimp only
    split <;> exact happen_executions _ _

/-- A cancellation touches one place of the store. -/
theorem cancel_executions (w : World) (l : Listed) {i : Nat} (hi : i ≠ l.place) :
    (w.cancel l).2.executions[i]? = w.executions[i]? := by
  unfold cancel
  split
  next => rfl
  next =>
    dsimp only
    rw [shutdowns_executions]
    simp [note, hi.symm]

theorem restart_executions (w : World) (l : Listed) (prior : Status) :
    (w.restart l prior).2.executions = w.executions := by
  unfold restart
  split
  next => rfl
  next => exact happen_executions _ _

theorem delete_executions (w : World) (id : Int) : (w.delete id).2.executions = w.executions := by
  unfold delete
  split
  next => rfl
  next =>
    split
    next => rfl
    next => exact happen_executions _ _

end World

theorem Quiet.executions {w w' : World} (h : Quiet w w') : w'.executions = w.executions := by
  obtain ⟨clock, log, last, rfl⟩ := h
  rfl

theorem Treated.executions {w w' : World} {t : Treatment} (h : Treated w t w') {i : Nat}
    (hi : i ≠ t.listed.place) : w'.executions[i]? = w.executions[i]? := by
  obtain ⟨w₁, v₁, w₂, v₂, hc, hq₁, hr, hq₂, hd⟩ := h.requests
  have hcancel := w.cancel_executions t.listed hi
  have hrestart := v₁.restart_executions t.listed t.listed.execution.status
  have hdelete := v₂.delete_executions t.listed.execution.id
  rw [hc] at hcancel
  rw [hr] at hrestart
  rw [hd] at hdelete
  dsimp only at hcancel hrestart hdelete
  rw [hdelete, hq₂.executions, hrestart, hq₁.executions, hcancel]

theorem Course.executions {w w' : World} {ts : List Treatment} (h : Course w ts w') {i : Nat}
    (hi : ∀ t ∈ ts, i ≠ t.listed.place) : w'.executions[i]? = w.executions[i]? := by
  induction h with
  | nil => rfl
  | quiet hq _ ih => rw [ih hi, hq.executions]
  | query hq _ ih => rw [ih hi, World.query_executions hq]
  | treat ht _ ih =>
    rw [ih fun u hu => hi u (List.mem_cons_of_mem _ hu), ht.executions (hi _ List.mem_cons_self)]

/-! ## Executions at their places -/

/-- The store still has the listed executions as they were listed, each at a place of its own. -/
structure InPlace (w : World) (ls : List Listed) : Prop where
  found : ∀ l ∈ ls, w.executions[l.place]? = some l.execution
  nodup : (ls.map Listed.place).Nodup

theorem listed_inPlace (w : World) (status : Status) : InPlace w (w.listed status) where
  found := by
    intro l hl
    obtain ⟨e, he, rfl⟩ := List.mem_map.1 hl
    exact List.mem_zipIdx_iff_getElem?.1 (List.mem_filter.1 he).1
  nodup := by
    have hplaces : ((w.executions.zipIdx).map Prod.snd).Nodup := by
      rw [List.zipIdx_map_snd]
      exact List.nodup_range'
    have hmap : (w.listed status).map Listed.place =
        (w.executions.zipIdx.filter fun e => e.1.status == status).map Prod.snd := by
      simp [World.listed, Function.comp_def]
    rw [hmap]
    exact hplaces.sublist (List.filter_sublist.map _)

theorem query_inPlace {w w' : World} {status : Status} {rule : StalenessRule} {ls : List Listed}
    (h : w.query status rule = (.ok ls, w')) : InPlace w' ls := by
  unfold World.query at h
  split at h
  next => cases h
  next =>
    dsimp only at h
    split at h
    next => cases h
    next =>
      cases h
      exact listed_inPlace _ _

/-- Treating an execution leaves the others in place. -/
theorem InPlace.tail {w w' : World} {l : Listed} {ls : List Listed} {ts : List Treatment}
    (h : InPlace w (l :: ls)) (hc : Course w ts w') (hts : ∀ t ∈ ts, t.listed = l) :
    InPlace w' ls := by
  obtain ⟨hnew, hnodup⟩ := List.nodup_cons.1 h.nodup
  refine ⟨fun k hk => ?_, hnodup⟩
  have hne : ∀ t ∈ ts, k.place ≠ t.listed.place := by
    intro t ht heq
    rw [hts t ht] at heq
    exact hnew (heq ▸ List.mem_map_of_mem hk)
  rw [hc.executions hne]
  exact h.found k (List.mem_cons_of_mem _ hk)

/-! ## Every cycle is a course of treatments -/

namespace World

theorem conclude_eq (w : World) (step : RemediationStep) (what : String)
    (answer : Except Failure Unit) :
    (w.conclude step what answer).1 = reported step answer ∧
      Quiet w (w.conclude step what answer).2 := by
  cases answer with
  | ok => exact ⟨rfl, _, _, _, rfl⟩
  | error f => exact ⟨rfl, say_quiet _ _ _⟩

theorem check_quiet {w w' : World} {status : Status} {rule : StalenessRule} {l : Listed}
    {answer : Except Failure Verdict} (h : w.check status rule l = (answer, w')) : Quiet w w' := by
  obtain ⟨clock, log, rfl⟩ := check_world h
  exact ⟨clock, log, _, rfl⟩

/-! The steps of a remediation are requests, with lines in the log around them. -/

theorem cancelStep_request (w : World) (l : Listed) (prior : Status) :
    ∃ v answer w₁, Quiet w v ∧ v.cancel l = (answer, w₁) ∧
      (w.cancelStep l prior).1 = reported .cancel answer ∧ Quiet w₁ (w.cancelStep l prior).2 :=
  have h := conclude_eq _ _ _ _
  ⟨_, _, _, say_quiet _ _ _, rfl, h.1, h.2⟩

theorem restartStep_request (w : World) (l : Listed) (prior : Status) :
    ∃ v answer w₁, Quiet w v ∧ v.restart l prior = (answer, w₁) ∧
      (w.restartStep l prior).1 = reported .restart answer ∧ Quiet w₁ (w.restartStep l prior).2 :=
  have h := conclude_eq _ _ _ _
  ⟨_, _, _, say_quiet _ _ _, rfl, h.1, h.2⟩

theorem deleteStep_request (w : World) (l : Listed) :
    ∃ answer w₁, w.delete l.execution.id = (answer, w₁) ∧
      (w.deleteStep l).1 = reported .deleteContainer answer ∧ Quiet w₁ (w.deleteStep l).2 :=
  have h := conclude_eq _ _ _ _
  ⟨_, _, rfl, h.1, h.2⟩

def answers (cancel restart delete : Except Failure Unit) : RemediationStep → Except Failure Unit
  | .cancel => cancel
  | .restart => restart
  | .deleteContainer => delete

/-- A remediation is a treatment of the execution that was listed. -/
theorem remediate_treated {w : World} {l : Listed}
    (h : w.executions[l.place]? = some l.execution) :
    ∃ t : Treatment, t.listed = l ∧ t.remediation = (w.remediate l).1 ∧
      Course w [t] (w.remediate l).2 := by
  let prior := l.execution.status
  let u := (w.cancelStep l prior).2
  let v := (u.restartStep l prior).2
  obtain ⟨w₀, a, w₁, hq₀, hc, hca, hq₁⟩ := w.cancelStep_request l prior
  obtain ⟨v₁, b, w₂, hq₁', hr, hrb, hq₂⟩ := u.restartStep_request l prior
  obtain ⟨c, w₃, hd, hdc, hq₃⟩ := v.deleteStep_request l
  refine ⟨⟨l, answers a b c⟩, rfl, ?_,
    .quiet hq₀ (.treat ⟨?_, w₁, v₁, w₂, v, hc, ?_, hr, hq₂, hd⟩ (.of_quiet hq₃))⟩
  · simp [Treatment.remediation, RemediationStep.all, answers, remediate, ← hca, ← hrb, ← hdc, u, v, prior]
  · rw [hq₀.executions]
    exact h
  · exact hq₁.trans hq₁'

end World

/-- The remediations for which requests were made. -/
def Fate.attempts : Fate → List Remediation
  | attempted m => [m]
  | _ => []

theorem Turn.course {status : Status} {rule : StalenessRule} {w w' : World} {l : Listed} {fate : Fate}
    (h : Turn status rule w l fate w') (hl : w.executions[l.place]? = some l.execution) :
    ∃ ts, Course w ts w' ∧ (∀ t ∈ ts, t.listed = l) ∧
      ts.map Treatment.remediation = fate.attempts := by
  cases h with
  | spared _ hc _ => exact ⟨[], .of_quiet (World.check_quiet hc), by simp, rfl⟩
  | undecided _ hc =>
    exact ⟨[], .of_quiet ((World.check_quiet hc).trans (say_quiet _ _ _)), by simp, rfl⟩
  | @attempted u _ _ _ _ hc hm =>
    have hq := World.check_quiet hc
    rw [← hq.executions] at hl
    obtain ⟨t, ht, hrem, hcourse⟩ := World.remediate_treated hl
    rw [hm] at hrem hcourse
    refine ⟨[t], .quiet hq hcourse, ?_, ?_⟩
    · intro t' ht'
      rw [List.mem_singleton.1 ht', ht]
    · rw [List.map_singleton, hrem]
      rfl
  | notAttempted => exact ⟨[], .nil, by simp, rfl⟩

/-- The turns of executions that are in place are treatments of those that were attempted. -/
theorem Turns.course {status : Status} {rule : StalenessRule} {w w' : World}
    {ts : List (Listed × Fate)} (h : Turns status rule w ts w') (hp : InPlace w (ts.map Prod.fst)) :
    ∃ us, Course w us w' ∧
      us.map Treatment.remediation = ts.flatMap fun t => t.2.attempts := by
  induction h with
  | nil => exact ⟨[], .nil, rfl⟩
  | @cons w₀ w₁ w₂ l fate ts ht _ ih =>
    obtain ⟨us, hcourse, hus, hrem⟩ := ht.course (hp.found l List.mem_cons_self)
    obtain ⟨us', hcourse', hrem'⟩ := ih (hp.tail hcourse hus)
    refine ⟨us ++ us', hcourse.append hcourse', ?_⟩
    rw [List.map_append, hrem, hrem', List.flatMap_cons]

theorem Visited.course {w w' : World} {v : Visit} (h : Visited w v w') :
    ∃ us, Course w us w' ∧
      us.map Treatment.remediation = v.turns.flatMap fun t => t.2.attempts := by
  cases h with
  | unlisted _ hq =>
    exact ⟨[], .quiet (say_quiet _ _ _) (.query hq (.of_quiet (say_quiet _ _ _))), rfl⟩
  | listed _ hq hls hts =>
    obtain ⟨us, hcourse, hrem⟩ := hts.course (hls ▸ query_inPlace hq)
    exact ⟨us, .quiet (say_quiet _ _ _) (.query hq hcourse), hrem⟩

theorem Visits.course {w w' : World} {vs : List Visit} (h : Visits w vs w') :
    ∃ us, Course w us w' ∧
      us.map Treatment.remediation = vs.flatMap fun v => v.turns.flatMap fun t => t.2.attempts := by
  induction h with
  | nil => exact ⟨[], .nil, rfl⟩
  | cons hv _ ih =>
    obtain ⟨us, hcourse, hrem⟩ := hv.course
    obtain ⟨us', hcourse', hrem'⟩ := ih
    refine ⟨us ++ us', hcourse.append hcourse', ?_⟩
    rw [List.map_append, hrem, hrem', List.flatMap_cons]

/-! ## The report of a course -/

/-- Of the remediations in the report the attempted ones are those for which requests were made. -/
theorem Visited.attempted {w w' : World} {v : Visit} (h : Visited w v w') :
    v.remediations.filter Remediation.attempted = v.turns.flatMap fun t => t.2.attempts := by
  have hturn : ∀ t ∈ v.turns,
      (t.2.remediation? t.1).toList.filter Remediation.attempted = t.2.attempts := by
    rintro ⟨l, fate⟩ ht
    cases fate with
    | attempted m =>
      have hm := (h.tried ht).attempted
      simp [Fate.remediation?, Fate.attempts, hm]
    | notAttempted => simp [Fate.remediation?, Fate.attempts, World.pending_attempted]
    | _ => rfl
  rw [Visit.remediations, List.filterMap_eq_flatMap_toList, List.filter_flatMap]
  exact List.flatMap_congr hturn

theorem Visits.attempted {w w' : World} {vs : List Visit} (h : Visits w vs w') :
    (vs.flatMap Visit.remediations).filter Remediation.attempted =
      vs.flatMap fun v => v.turns.flatMap fun t => t.2.attempts := by
  rw [List.filter_flatMap]
  refine List.flatMap_congr fun v hv => ?_
  obtain ⟨u, u', hvisit⟩ := h.visited v hv
  exact hvisit.attempted

theorem Visits.pending {w w' : World} {vs : List Visit} (h : Visits w vs w') {m : Remediation}
    (hm : m ∈ vs.flatMap Visit.remediations) (hnot : m.attempted = false) :
    ∃ l, m = World.pending l := by
  obtain ⟨v, hv, hmem⟩ := List.mem_flatMap.1 hm
  obtain ⟨⟨l, fate⟩, ht, hrem⟩ := List.mem_filterMap.1 hmem
  cases fate with
  | spared | undecided => cases hrem
  | notAttempted => exact ⟨l, (Option.some.inj hrem).symm⟩
  | attempted m' =>
    obtain rfl := Option.some.inj hrem
    obtain ⟨u, u', hvisit⟩ := h.visited v hv
    rw [(hvisit.tried ht).attempted] at hnot
    cases hnot

/-- A cycle that returns is a course of treatments, and its report has each of them as it went. -/
theorem World.reapCycle_course {w w' : World} {r : CycleReport} (h : w.reapCycle = (.ok r, w')) :
    ∃ ts, Course w ts w' ∧
      r.remediations.filter Remediation.attempted = ts.map Treatment.remediation ∧
      ∀ m ∈ r.remediations, m.attempted = false → ∃ l, m = World.pending l := by
  obtain ⟨start, w₀, r₀, w₁, finish, w₂, hstart, hmid, hfinish, hreport, hworld⟩ :=
    World.reapCycle_eq_ok h
  obtain ⟨vs, hvs, -, hr, -⟩ :=
    World.reapStatuses_account w.policy.monitoredRules { startedAt := start } w₀
  rw [hmid] at hvs hr
  dsimp only at hvs hr
  obtain ⟨ts, hcourse, hts⟩ := hvs.course
  have hrem : r.remediations = vs.flatMap Visit.remediations := by
    rw [hreport, hr]
    rfl
  -- Before the first visit and after the last one the clock is read, and that is all.
  have hfirst : Quiet w w₀ := by
    have hread : Quiet w w.readClock.2 := ⟨_, _, _, rfl⟩
    rwa [hstart] at hread
  have hlast : Quiet w₁ w' := by
    have hread : Quiet w₁ w₁.readClock.2 := ⟨_, _, _, rfl⟩
    rw [hfinish] at hread
    rw [hworld]
    exact hread.trans ⟨_, _, _, rfl⟩
  have hwhole : Course w (ts ++ []) w' := .quiet hfirst (hcourse.append (.of_quiet hlast))
  rw [List.append_nil] at hwhole
  refine ⟨ts, hwhole, ?_, fun m hm => ?_⟩
  · rw [hrem, hvs.attempted, hts]
  · rw [hrem] at hm
    exact hvs.pending hm

/-! ## What the report says about each step -/

theorem reported_step (step : RemediationStep) (answer : Except Failure Unit) :
    (reported step answer).step = step := by
  cases answer <;> rfl

theorem reported_success (step : RemediationStep) (answer : Except Failure Unit) :
    (reported step answer).outcome = .success ∧ (reported step answer).error = none ↔
      answer = .ok () := by
  cases answer <;> simp [reported]

theorem reported_failed (step : RemediationStep) (answer : Except Failure Unit) (why : String) :
    (reported step answer).outcome = .failed ∧ (reported step answer).error = some why ↔
      ∃ f, answer = .error f ∧ f.message = why := by
  cases answer <;> simp [reported]

theorem reported_outcome (step : RemediationStep) (answer : Except Failure Unit) :
    (reported step answer).outcome ≠ .skipped := by
  cases answer <;> simp [reported]

namespace Treatment

theorem mem_steps {t : Treatment} {s : StepResult} (h : s ∈ t.remediation.steps) :
    s = reported s.step (t.answer s.step) := by
  obtain ⟨step, -, rfl⟩ := List.mem_map.1 h
  rw [reported_step]

theorem map_step (t : Treatment) : t.remediation.steps.map StepResult.step = RemediationStep.all := by
  simp [remediation, Function.comp_def, reported_step]

theorem succeeded_iff (t : Treatment) :
    t.remediation.succeeded = true ↔ ∀ step, t.answer step = .ok () := by
  have hstep (step : RemediationStep) :
      (reported step (t.answer step)).outcome = .success ↔ t.answer step = .ok () := by
    cases t.answer step <;> simp [reported]
  constructor
  · intro h step
    have hall : ∀ step ∈ RemediationStep.all, t.answer step = .ok () := by
      simpa [Remediation.succeeded, remediation, hstep] using h
    cases step <;> exact hall _ (by simp [RemediationStep.all])
  · intro h
    simp [Remediation.succeeded, remediation, reported, h]

end Treatment

theorem pending_succeeded (l : Listed) : (World.pending l).succeeded = false := by
  simp [World.pending, Remediation.notAttempted, Remediation.succeeded, RemediationStep.all]

/-- A report `r` that accounts for what the controllers were asked from `w` to `w'`: they were asked
for the treatments `ts`, and the report shows those and how each of their requests went. -/
structure Faithful (w : World) (r : CycleReport) (w' : World) (ts : List Treatment) : Prop where
  course : Course w ts w'
  /-- The recorded calls are those of the treatments, in their order. A collaborator that is
  missing keeps no record, and neither does the cluster. -/
  calls : ∃ new, w'.calls = w.calls ++ new ∧
    new.filter Call.isControl = (ts.flatMap Treatment.calls).filter w.records
  attempted : r.remediations.filter Remediation.attempted = ts.map Treatment.remediation
  steps : ∀ m ∈ r.remediations, m.steps.map StepResult.step = RemediationStep.all
  /-- An attempted remediation had every step taken, and another none. -/
  taken : ∀ m ∈ r.remediations, m.attempted = true → ∀ s ∈ m.steps, s.outcome ≠ .skipped
  skipped : ∀ m ∈ r.remediations, m.attempted = false → ∀ s ∈ m.steps, s.outcome = .skipped
  /-- A step succeeded if its request returned, and failed with the reason of the request. -/
  success : ∀ t ∈ ts, ∀ s ∈ t.remediation.steps,
    s.outcome = .success ∧ s.error = none ↔ t.answer s.step = .ok ()
  failed : ∀ t ∈ ts, ∀ s ∈ t.remediation.steps, ∀ why,
    s.outcome = .failed ∧ s.error = some why ↔ ∃ f, t.answer s.step = .error f ∧ f.message = why
  succeeded : ∀ m ∈ r.remediations,
    m.succeeded = true ↔ ∃ t ∈ ts, t.remediation = m ∧ ∀ step, t.answer step = .ok ()

/-- A report that has the treatments of a course, and nothing else that was attempted. -/
theorem Course.faithful {w w' : World} {ts : List Treatment} {r : CycleReport} (h : Course w ts w')
    (hattempted : r.remediations.filter Remediation.attempted = ts.map Treatment.remediation)
    (hpending : ∀ m ∈ r.remediations, m.attempted = false → ∃ l, m = World.pending l) :
    Faithful w r w' ts := by
  have hkind : ∀ m ∈ r.remediations, m.attempted = true → ∃ t ∈ ts, t.remediation = m := by
    intro m hm ha
    have hmem : m ∈ ts.map Treatment.remediation := hattempted ▸ List.mem_filter.2 ⟨hm, ha⟩
    exact List.mem_map.1 hmem
  obtain ⟨cs, hmade, hcs⟩ := h.made
  obtain ⟨new, hnew, hreq⟩ := hmade.calls
  exact {
    course := h
    calls := by
      have hsub : new.filter Call.isControl =
          (new.filter Call.isRequest).filter Call.isControl := by
        rw [List.filter_filter]
        refine List.filter_congr fun c _ => ?_
        cases c <;> rfl
      have hcomm : (cs.filter w.records).filter Call.isControl =
          (cs.filter Call.isControl).filter w.records := by
        simp only [List.filter_filter, Bool.and_comm]
      exact ⟨new, hnew, by rw [hsub, hreq, hcomm, hcs]⟩
    attempted := hattempted
    steps := by
      intro m hm
      cases ha : m.attempted with
      | true =>
        obtain ⟨t, -, rfl⟩ := hkind m hm ha
        exact t.map_step
      | false =>
        obtain ⟨l, rfl⟩ := hpending m hm ha
        rfl
    taken := by
      intro m hm ha s hs
      obtain ⟨t, -, rfl⟩ := hkind m hm ha
      rw [Treatment.mem_steps hs]
      exact reported_outcome _ _
    skipped := by
      intro m hm ha s hs
      obtain ⟨l, rfl⟩ := hpending m hm ha
      obtain ⟨step, -, rfl⟩ := List.mem_map.1 hs
      rfl
    success := by
      intro t _ s hs
      have hrep := reported_success s.step (t.answer s.step)
      rwa [← Treatment.mem_steps hs] at hrep
    failed := by
      intro t _ s hs why
      have hrep := reported_failed s.step (t.answer s.step) why
      rwa [← Treatment.mem_steps hs] at hrep
    succeeded := by
      intro m hm
      cases ha : m.attempted with
      | true =>
        obtain ⟨t, ht, rfl⟩ := hkind m hm ha
        refine ⟨fun hs => ⟨t, ht, rfl, t.succeeded_iff.1 hs⟩, ?_⟩
        rintro ⟨u, -, hu, hok⟩
        rw [← hu]
        exact u.succeeded_iff.2 hok
      | false =>
        obtain ⟨l, rfl⟩ := hpending m hm ha
        rw [pending_succeeded]
        constructor
        · intro hs
          cases hs
        · rintro ⟨u, -, hu, hok⟩
          -- A treatment that went well is no pending remediation.
          have hs := u.succeeded_iff.2 hok
          rw [hu, pending_succeeded] at hs
          cases hs }

/-- The report of a cycle that returns accounts exactly for what the controllers were asked. -/
theorem reapCycle_faithful {w w' : World} {r : CycleReport} (h : w.reapCycle = (.ok r, w')) :
    ∃ ts, Faithful w r w' ts := by
  obtain ⟨ts, hcourse, hattempted, hpending⟩ := World.reapCycle_course h
  exact ⟨ts, hcourse.faithful hattempted hpending⟩

/-- The cycle is cut short as before, and the canceller fails at the one execution that it is asked
about, after it has changed its state. -/
def faltering : World :=
  { interrupted with script := { interrupted.script with
      stepFault := fun _ step _ => if step = .cancel then some "busy" else none } }

def falteringReport : CycleReport :=
  { interruptedReport with remediations :=
      [⟨2, .preparing, [⟨.cancel, .failed, some "busy"⟩, ⟨.restart, .success, none⟩,
        ⟨.deleteContainer, .success, none⟩]⟩,
      .notAttempted 3 .preparing World.cancelledReason] }

theorem faltering_faithful :
    faltering.reapCycle.1 = .ok falteringReport ∧
      ∃ ts, Faithful faltering falteringReport faltering.reapCycle.2 ts :=
  ⟨rfl, reapCycle_faithful (Prod.ext rfl rfl)⟩

end FlowWarden.Reaper
