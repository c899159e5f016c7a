import Mathlib.Data.List.Nodup
import FlowWarden.Proofs.Keyed
import FlowWarden.Proofs.Reaper.Requests
/-!
# The account of a cycle

A cycle goes through the monitored states and, in each, through the executions that the store
lists. `Visits` says what happened there, in the order in which it happened and each time from the
surroundings that the previous event left: the store's answer for each state, and the fate of each
listed execution. `reapCycle_accounted` says that the report holds exactly that, each listed
execution once, whatever fails and whenever somebody shuts the reaper down.
-/

namespace FlowWarden

namespace Reaper

/-! ## What happens in a cycle -/

/-- What became of a listed execution. -/
inductive Fate
  /-- The check found it fresh, or its pod in use. -/
  | spared
  /-- The check failed. -/
  | undecided (f : Failure)
  /-- The check found it stale. -/
  | attempted (m : Remediation)
  /-- The cycle was cancelled before its turn. -/
  | notAttempted

namespace Fate

def isSkip : Fate → Bool
  | spared | undecided _ => true
  | attempted _ | notAttempted => false

def isCut : Fate → Bool
  | notAttempted => true
  | _ => false

def failure? : Fate → Option Failure
  | undecided f => some f
  | _ => none

def requests (l : Listed) : Fate → List Call
  | attempted _ => World.remedyCalls l
  | _ => []

/-- The remediation that the report has for the execution, if any. -/
def remediation? (l : Listed) : Fate → Option Remediation
  | attempted m => some m
  | notAttempted => some (World.pending l)
  | _ => none

end Fate

/-- What the log says when a check fails. -/
def undecidedText (l : Listed) (f : Failure) : String :=
  "❌ Error checking staleness of execution " ++ toString l.execution.id ++ ": " ++ f.message

/-- What the log says when the executions of a state cannot be listed. -/
def unlistedText (status : Status) (f : Failure) : String :=
  "❌ Error fetching stale flows for status " ++ status.name ++ ": " ++ f.message

/-- The turn of one execution: the cancel flag is looked at first, then the check decides. -/
inductive Turn (status : Status) (rule : StalenessRule) : World → Listed → Fate → World → Prop
  | spared {w w' l v} : w.cancelling = false → w.check status rule l = (.ok v, w') → v ≠ .stale →
      Turn status rule w l .spared w'
  | undecided {w w' l f} : w.cancelling = false → w.check status rule l = (.error f, w') →
      Turn status rule w l (.undecided f) (w'.say Log.error (undecidedText l f))
  | attempted {w w' w'' l m} : w.cancelling = false → w.check status rule l = (.ok .stale, w') →
      w'.remediate l = (m, w'') → Turn status rule w l (.attempted m) w''
  | notAttempted {w l} : w.cancelling = true → Turn status rule w l .notAttempted w

/-- The turns of one execution after another. -/
inductive Turns (status : Status) (rule : StalenessRule) :
    World → List (Listed × Fate) → World → Prop
  | nil {w} : Turns status rule w [] w
  | cons {w w' w'' l fate ts} : Turn status rule w l fate w' → Turns status rule w' ts w'' →
      Turns status rule w ((l, fate) :: ts) w''

/-- A state that a cycle looked at. -/
structure Visit where
  status : Status
  rule : StalenessRule
  /-- What the store said. -/
  answer : Except Failure (List Listed)
  turns : List (Listed × Fate)

/-- A visit to a state: one query, and if it is answered a turn for each execution. -/
inductive Visited : World → Visit → World → Prop
  | unlisted {w w' status rule f} : w.cancelling = false →
      (w.say Log.info ("Cleaning up stale flows for status: " ++ status.name)).query status rule =
        (.error f, w') →
      Visited w ⟨status, rule, .error f, []⟩ (w'.say Log.error (unlistedText status f))
  | listed {w w' w'' status rule ls ts} : w.cancelling = false →
      (w.say Log.info ("Cleaning up stale flows for status: " ++ status.name)).query status rule =
        (.ok ls, w') →
      ts.map Prod.fst = ls → Turns status rule w' ts w'' →
      Visited w ⟨status, rule, .ok ls, ts⟩ w''

/-- Visits to one state after another. -/
inductive Visits : World → List Visit → World → Prop
  | nil {w} : Visits w [] w
  | cons {w w' w'' v vs} : Visited w v w' → Visits w' vs w'' → Visits w (v :: vs) w''

namespace Visit

/-- The rule that a visit went by, with its state. -/
def row (v : Visit) : Status × StalenessRule := (v.status, v.rule)

def query (v : Visit) : Call := .query v.status v.rule.field v.rule.maxAge

def requests (v : Visit) : List Call :=
  v.query :: v.turns.flatMap fun t => t.2.requests t.1

/-- Why the executions could not be listed. -/
def queryErrors (v : Visit) : List (Status × String) :=
  match v.answer with
  | .error f => [(v.status, f.message)]
  | .ok _ => []

def skipped (v : Visit) : List Int :=
  (v.turns.filter fun t => t.2.isSkip).map fun t => t.1.execution.id

/-- The executions whose check failed, and why. -/
def undecided (v : Visit) : List (Int × String) :=
  v.turns.filterMap fun t => t.2.failure?.map fun f => (t.1.execution.id, f.message)

/-- What the report has about the executions that were not skipped. -/
def remediations (v : Visit) : List Remediation :=
  v.turns.filterMap fun t => t.2.remediation? t.1

def isCut (v : Visit) : Bool :=
  v.turns.any fun t => t.2.isCut

end Visit

/-! ## What the report says about it -/

/-- A report with the turns of further executions. -/
def withTurns (r : CycleReport) (ts : List (Listed × Fate)) : CycleReport :=
  { r with
    skipped := r.skipped ++ (ts.filter fun t => t.2.isSkip).map fun t => t.1.execution.id
    eligibilityErrors := Keyed.insertAll
      (ts.filterMap fun t => t.2.failure?.map fun f => (t.1.execution.id, f.message)) r.eligibilityErrors
    remediations := r.remediations ++ ts.filterMap fun t => t.2.remediation? t.1
    cancelled := r.cancelled || ts.any fun t => t.2.isCut }

/-- A report with further visits. -/
def withVisits (r : CycleReport) (vs : List Visit) : CycleReport :=
  { r with
    scanned := r.scanned ++ vs.map Visit.status
    queryErrors := Keyed.insertAll (vs.flatMap Visit.queryErrors) r.queryErrors
    skipped := r.skipped ++ vs.flatMap Visit.skipped
    eligibilityErrors := Keyed.insertAll (vs.flatMap Visit.undecided) r.eligibilityErrors
    remediations := r.remediations ++ vs.flatMap Visit.remediations
    cancelled := r.cancelled || vs.any Visit.isCut }

theorem withTurns_nil (r : CycleReport) : withTurns r [] = r := by
  simp [withTurns, Keyed.insertAll]

theorem withTurns_append (r : CycleReport) (ts us : List (Listed × Fate)) :
    withTurns r (ts ++ us) = withTurns (withTurns r ts) us := by
  simp [withTurns, Keyed.insertAll_append, Bool.or_assoc]

theorem withVisits_nil (r : CycleReport) : withVisits r [] = r := by
  simp [withVisits, Keyed.insertAll]

theorem withVisits_append (r : CycleReport) (vs us : List Visit) :
    withVisits r (vs ++ us) = withVisits (withVisits r vs) us := by
  simp [withVisits, Keyed.insertAll_append, Bool.or_assoc]

/-- Executions that the cycle did not come to are reported together. -/
theorem withTurns_notAttempted (r : CycleReport) {ls : List Listed} (h : ls ≠ []) :
    withTurns r (ls.map fun l => (l, .notAttempted)) =
      r.cutShort.remediated (ls.map World.pending) := by
  have hskip : (ls.map fun l => (l, Fate.notAttempted)).filter (fun t => t.2.isSkip) = [] := by
    simp [List.filter_map, Function.comp_def, Fate.isSkip]
  have hfail : (ls.map fun l => (l, Fate.notAttempted)).filterMap
      (fun t => t.2.failure?.map fun f => (t.1.execution.id, f.message)) = [] := by
    simp [List.filterMap_map, Fate.failure?]
  have hrem : (ls.map fun l => (l, Fate.notAttempted)).filterMap (fun t => t.2.remediation? t.1) =
      ls.map World.pending := by
    simp [List.filterMap_map, Fate.remediation?]
  have hcut : ((ls.map fun l => (l, Fate.notAttempted)).any fun t => t.2.isCut) = true := by
    obtain ⟨l, ls, rfl⟩ := List.exists_cons_of_ne_nil h
    simp [Fate.isCut]
  simp [withTurns, CycleReport.cutShort, CycleReport.remediated, hskip, hfail, hrem, hcut,
    Keyed.insertAll]

/-! ## Every cycle has an account -/

namespace World

variable {status : Status} {rule : StalenessRule}

theorem reapOne_turn (l : Listed) (r : CycleReport) {w : World} (h : w.cancelling = false) :
    ∃ fate, Turn status rule w l fate (reapOne status rule l r w).2 ∧
      (reapOne status rule l r w).1 = withTurns r [(l, fate)] := by
  unfold reapOne
  split
  next f w' hc =>
    refine ⟨.undecided f, .undecided h hc, ?_⟩
    simp [withTurns, CycleReport.undecided, CycleReport.skip, Fate.isSkip, Fate.failure?,
      Fate.remediation?, Fate.isCut, Keyed.insertAll]
  next w' hc =>
    refine ⟨.attempted (w'.remediate l).1, .attempted h hc rfl, ?_⟩
    simp [withTurns, CycleReport.remediated, Fate.isSkip, Fate.failure?, Fate.remediation?,
      Fate.isCut, Keyed.insertAll]
  next v w' hne hc =>
    refine ⟨.spared, .spared h hc hne, ?_⟩
    simp [withTurns, CycleReport.skip, Fate.isSkip, Fate.failure?, Fate.remediation?, Fate.isCut,
      Keyed.insertAll]

theorem turns_notAttempted {w : World} (h : w.cancelling = true) (ls : List Listed) :
    Turns status rule w (ls.map fun l => (l, .notAttempted)) w := by
  induction ls with
  | nil => exact .nil
  | cons l ls ih => exact .cons (.notAttempted h) ih

theorem reapListed_turns (ls : List Listed) (r : CycleReport) (w : World) :
    ∃ ts, Turns status rule w ts (reapListed status rule ls r w).2 ∧ ts.map Prod.fst = ls ∧
      (reapListed status rule ls r w).1 = withTurns r ts := by
  induction ls generalizing r w with
  | nil => exact ⟨[], .nil, rfl, (withTurns_nil r).symm⟩
  | cons l ls ih =>
    unfold reapListed
    by_cases hc : w.cancelling = true
    · rw [if_pos hc]
      refine ⟨_, turns_notAttempted hc (l :: ls), by simp [Function.comp_def], ?_⟩
      exact (withTurns_notAttempted r (List.cons_ne_nil l ls)).symm
    · rw [if_neg hc]
      obtain ⟨fate, ht, hr⟩ := reapOne_turn l r (Bool.not_eq_true _ ▸ hc)
      obtain ⟨ts, hts, hls, hr'⟩ := ih (reapOne status rule l r w).1 (reapOne status rule l r w).2
      refine ⟨(l, fate) :: ts, .cons ht hts, by simp [hls], ?_⟩
      rw [hr', hr, ← withTurns_append, List.singleton_append]

/-- A visit whose turns are entered in a report that has its state is entered as a whole. -/
theorem withVisits_listed (r : CycleReport) (ls : List Listed) (ts : List (Listed × Fate)) :
    withTurns (r.scan status) ts = withVisits r [⟨status, rule, .ok ls, ts⟩] := by
  simp [withTurns, withVisits, CycleReport.scan, Visit.queryErrors, Visit.skipped, Visit.undecided,
    Visit.remediations, Visit.isCut, Keyed.insertAll]

theorem withVisits_unlisted (r : CycleReport) (f : Failure) :
    (r.scan status).queryFailed status f.message = withVisits r [⟨status, rule, .error f, []⟩] := by
  simp [withVisits, CycleReport.scan, CycleReport.queryFailed, Visit.queryErrors, Visit.skipped,
    Visit.undecided, Visit.remediations, Visit.isCut, Keyed.insertAll]

theorem reapStatus_visit (r : CycleReport) {w : World} (h : w.cancelling = false) :
    ∃ v : Visit, v.row = (status, rule) ∧ Visited w v (reapStatus status rule r w).2 ∧
      (reapStatus status rule r w).1 = withVisits r [v] := by
  unfold reapStatus
  dsimp only
  split
  next f w' hq => exact ⟨_, rfl, .unlisted h hq, withVisits_unlisted r f⟩
  next ls w' hq =>
    obtain ⟨ts, hts, hls, hr⟩ := @reapListed_turns status rule ls (r.scan status) w'
    exact ⟨_, rfl, .listed h hq hls hts, hr.trans (withVisits_listed r ls ts)⟩

/-- The states are visited in order, and all of them unless the cycle is cut short. -/
theorem reapStatuses_visits (rs : List (Status × StalenessRule)) (r : CycleReport) (w : World) :
    ∃ vs, Visits w vs (reapStatuses rs r w).2 ∧ vs.map Visit.row <+: rs ∧
      ((vs.map Visit.row = rs ∧ (reapStatuses rs r w).1 = withVisits r vs) ∨
        (reapStatuses rs r w).1 = (withVisits r vs).cutShort) := by
  induction rs generalizing r w with
  | nil => exact ⟨[], .nil, List.prefix_rfl, .inl ⟨rfl, (withVisits_nil r).symm⟩⟩
  | cons row rs ih =>
    obtain ⟨status, rule⟩ := row
    unfold reapStatuses
    by_cases hc : w.cancelling = true
    · rw [if_pos hc]
      exact ⟨[], .nil, List.nil_prefix, .inr (by rw [withVisits_nil])⟩
    · rw [if_neg hc]
      obtain ⟨v, hv, hvisit, hr⟩ := @reapStatus_visit status rule r w (Bool.not_eq_true _ ▸ hc)
      obtain ⟨vs, hvs, hpre, hr'⟩ := ih (reapStatus status rule r w).1 (reapStatus status rule r w).2
      refine ⟨v :: vs, .cons hvisit hvs, ?_, ?_⟩
      · rw [List.map_cons, hv]
        exact List.cons_prefix_cons.2 ⟨rfl, hpre⟩
      · have hone : withVisits r (v :: vs) = withVisits (reapStatus status rule r w).1 vs := by
          rw [hr, ← withVisits_append, List.singleton_append]
        rw [List.map_cons, hv, hone]
        rcases hr' with ⟨hall, hr'⟩ | hr'
        · exact .inl ⟨by rw [hall], hr'⟩
        · exact .inr hr'

end World

/-! ## The requests of an account -/

theorem Turn.made {status : Status} {rule : StalenessRule} {w w' : World} {l : Listed} {fate : Fate}
    (h : Turn status rule w l fate w') : w.Made (fate.requests l) w' := by
  cases h with
  | spared _ hc _ => exact World.check_made hc
  | undecided _ hc => exact (World.check_made hc).trans (World.say_made _ _ _)
  | @attempted w₁ _ _ _ _ hc hm =>
    have hrem := w₁.remediate_made l
    rw [hm] at hrem
    exact (World.check_made hc).trans hrem
  | notAttempted => exact .refl w

theorem Turns.made {status : Status} {rule : StalenessRule} {w w' : World}
    {ts : List (Listed × Fate)} (h : Turns status rule w ts w') :
    w.Made (ts.flatMap fun t => t.2.requests t.1) w' := by
  induction h with
  | nil => exact .refl _
  | cons ht _ ih => exact ht.made.trans ih

theorem Visited.made {w w' : World} {v : Visit} (h : Visited w v w') : w.Made v.requests w' := by
  cases h with
  | unlisted _ hq =>
    exact (World.say_made _ _ _).trans ((World.query_made hq).trans (World.say_made _ _ _))
  | listed _ hq _ hts => exact (World.say_made _ _ _).trans ((World.query_made hq).trans hts.made)

/-- A cycle makes the requests of its visits, and no others. -/
theorem Visits.made {w w' : World} {vs : List Visit} (h : Visits w vs w') :
    w.Made (vs.flatMap Visit.requests) w' := by
  induction h with
  | nil => exact .refl _
  | cons hv _ ih => exact hv.made.trans ih

theorem Visit.requests_filter_isQuery (v : Visit) : v.requests.filter Call.isQuery = [v.query] := by
  have hturn : ∀ t ∈ v.turns, (t.2.requests t.1).filter Call.isQuery = [] := by
    rintro ⟨l, fate⟩ -
    cases fate <;> rfl
  rw [Visit.requests, List.filter_cons_of_pos rfl, List.filter_flatMap,
    List.flatMap_eq_nil_iff.2 hturn]

/-- The queries among the recorded requests: one for each visit, where there is a store. -/
theorem queries_of_visits (w : World) (vs : List Visit) :
    ((vs.flatMap Visit.requests).filter w.records).filter Call.isQuery =
      if w.script.lacks .store then [] else vs.map Visit.query := by
  have hquery : (vs.flatMap Visit.requests).filter Call.isQuery = vs.map Visit.query := by
    simp only [List.filter_flatMap, Visit.requests_filter_isQuery, List.map_eq_flatMap]
  have hcomm : ((vs.flatMap Visit.requests).filter w.records).filter Call.isQuery =
      ((vs.flatMap Visit.requests).filter Call.isQuery).filter w.records := by
    simp only [List.filter_filter, Bool.and_comm]
  rw [hcomm, hquery]
  split
  next h =>
    rw [List.filter_eq_nil_iff]
    intro c hc
    obtain ⟨v, -, rfl⟩ := List.mem_map.1 hc
    simp [Visit.query, World.records, h]
  next h =>
    rw [List.filter_eq_self]
    intro c hc
    obtain ⟨v, -, rfl⟩ := List.mem_map.1 hc
    simp [Visit.query, World.records, h]

/-! ## The account and the report -/

/-- Every turn in a list of turns was taken in some surroundings. -/
theorem Turns.turn {status : Status} {rule : StalenessRule} {w w' : World}
    {ts : List (Listed × Fate)} (h : Turns status rule w ts w') :
    ∀ t ∈ ts, ∃ u u', Turn status rule u t.1 t.2 u' := by
  induction h with
  | nil => simp
  | cons ht _ ih =>
    intro t hmem
    rcases List.mem_cons.1 hmem with rfl | hmem
    · exact ⟨_, _, ht⟩
    · exact ih t hmem

/-- Every visit took place in some surroundings. -/
theorem Visits.visited {w w' : World} {vs : List Visit} (h : Visits w vs w') :
    ∀ v ∈ vs, ∃ u u', Visited u v u' := by
  induction h with
  | nil => simp
  | cons hv _ ih =>
    intro v hmem
    rcases List.mem_cons.1 hmem with rfl | hmem
    · exact ⟨_, _, hv⟩
    · exact ih v hmem

theorem Visited.turns_eq_nil {w w' : World} {v : Visit} (h : Visited w v w') {f : Failure}
    (hf : v.answer = .error f) : v.turns = [] := by
  cases h with
  | unlisted => rfl
  | listed => cases hf

theorem Visited.turns_listed {w w' : World} {v : Visit} (h : Visited w v w') {ls : List Listed}
    (hls : v.answer = .ok ls) : v.turns.map Prod.fst = ls := by
  cases h with
  | unlisted => cases hls
  | listed _ _ hts => cases hls; exact hts

theorem Visited.tried {w w' : World} {v : Visit} (h : Visited w v w') {l : Listed} {m : Remediation}
    (hm : (l, Fate.attempted m) ∈ v.turns) : World.Tried l m := by
  cases h with
  | unlisted => cases hm
  | listed _ _ _ hts =>
    obtain ⟨u, u', ht⟩ := hts.turn _ hm
    cases ht with
    | @attempted u₁ _ _ _ _ _ hrem =>
      have h := u₁.remediate_tried l
      rwa [hrem] at h

theorem mem_keys_queryErrors {vs : List Visit} {status : Status} :
    status ∈ Keyed.keys (vs.flatMap Visit.queryErrors) ↔
      ∃ v ∈ vs, v.status = status ∧ ∃ f, v.answer = .error f := by
  simp only [Keyed.keys, List.mem_map, List.mem_flatMap]
  constructor
  · rintro ⟨p, ⟨v, hv, hp⟩, rfl⟩
    cases ha : v.answer with
    | ok => simp [Visit.queryErrors, ha] at hp
    | error f =>
      simp only [Visit.queryErrors, ha, List.mem_singleton] at hp
      exact ⟨v, hv, by rw [hp], f, ha⟩
  · rintro ⟨v, hv, rfl, f, ha⟩
    exact ⟨(v.status, f.message), ⟨v, hv, by simp [Visit.queryErrors, ha]⟩, rfl⟩

theorem keys_queryErrors_sublist (vs : List Visit) :
    (Keyed.keys (vs.flatMap Visit.queryErrors)).Sublist (vs.map Visit.status) := by
  induction vs with
  | nil => exact .slnil
  | cons v vs ih =>
    rw [List.flatMap_cons, Keyed.keys, List.map_append, List.map_cons]
    cases ha : v.answer with
    | ok =>
      simp only [Visit.queryErrors, ha, List.map_nil, List.nil_append]
      exact ih.cons _
    | error f =>
      simp only [Visit.queryErrors, ha, List.map_cons, List.map_nil, List.singleton_append]
      exact ih.cons_cons _

/-- The visits `vs` account for the cycle from `w` to `w'` that returned `r`. -/
structure Accounted (w : World) (r : CycleReport) (w' : World) (vs : List Visit) : Prop where
  /-- The visits took place, between the readings of the clock. -/
  visited : ∃ w₀ w₁ w₂ finish, w.readClock = (.ok r.startedAt, w₀) ∧ Visits w₀ vs w₁ ∧
    w₁.readClock = (.ok finish, w₂) ∧ r.finishedAt = some finish
  /-- The states were taken in table order, each by its own rule. -/
  scanned : r.scanned = vs.map Visit.status
  nodup : r.scanned.Nodup
  inOrder : r.scanned <+: w.policy.monitored
  complete : r.cancelled = false → r.scanned = w.policy.monitored
  ruled : ∀ v ∈ vs, w.policy.ruleFor? v.status = some v.rule ∧ v.rule.isExempt = false
  /-- One query was made for each of them, and none for another state. -/
  queries : ∃ new, w'.calls = w.calls ++ new ∧
    new.filter Call.isQuery = (if w.script.lacks .store then [] else vs.map Visit.query) ∧
    ∀ status field maxAge, .query status field maxAge ∈ new → ∃ rule,
      w.policy.ruleFor? status = some rule ∧ rule.isExempt = false ∧
        rule.field = field ∧ rule.maxAge = maxAge
  /-- The failed queries are those with an entry, and nothing else comes from them. -/
  unlisted_iff : ∀ v ∈ vs, v.status ∈ Keyed.keys r.queryErrors ↔ ∃ f, v.answer = .error f
  unlisted_scanned : ∀ status ∈ Keyed.keys r.queryErrors, status ∈ r.scanned
  unlisted : ∀ v ∈ vs, ∀ f, v.answer = .error f →
    Keyed.find? v.status r.queryErrors = some f.message ∧ v.turns = []
  /-- Every listed execution has its turn, in the store's order. -/
  listed : ∀ v ∈ vs, ∀ ls, v.answer = .ok ls → v.turns.map Prod.fst = ls
  /-- What became of the executions is what the report says. -/
  skipped : r.skipped = vs.flatMap Visit.skipped
  undecided : r.eligibilityErrors = Keyed.insertAll (vs.flatMap Visit.undecided) []
  remediations : r.remediations = vs.flatMap Visit.remediations
  attempted : ∀ v ∈ vs, ∀ l m, (l, Fate.attempted m) ∈ v.turns → World.Tried l m ∧ m.attempted = true
  notAttempted : ∀ l, (World.pending l).attempted = false

/-- The rows of an account are rows of the table that are not exempt. -/
theorem ruled_of_rows {p : StalenessPolicy} {vs : List Visit}
    (h : vs.map Visit.row <+: p.monitoredRules) :
    ∀ v ∈ vs, p.ruleFor? v.status = some v.rule ∧ v.rule.isExempt = false := by
  intro v hv
  obtain ⟨hrow, hexempt⟩ := List.mem_filter.1 (h.subset (List.mem_map_of_mem hv))
  exact ⟨Keyed.find?_of_mem p.distinct hrow, by simpa [Visit.row] using hexempt⟩

theorem nodup_of_rows {p : StalenessPolicy} {vs : List Visit}
    (h : vs.map Visit.row <+: p.monitoredRules) : (vs.map Visit.status).Nodup := by
  have hsub : (vs.map Visit.status).Sublist (Keyed.keys p.rules) := by
    have := (h.sublist.trans List.filter_sublist).map Prod.fst
    rwa [List.map_map] at this
  exact p.distinct.sublist hsub

/-- Of the report of a cycle only the cancellation depends on where it ended. -/
theorem World.reapStatuses_account (rs : List (Status × StalenessRule)) (r : CycleReport) (w : World) :
    ∃ vs, Visits w vs (reapStatuses rs r w).2 ∧ vs.map Visit.row <+: rs ∧
      (reapStatuses rs r w).1 =
        { withVisits r vs with cancelled := (reapStatuses rs r w).1.cancelled } ∧
      ((reapStatuses rs r w).1.cancelled = false → vs.map Visit.row = rs) := by
  obtain ⟨vs, hvs, hpre, ⟨hall, hr⟩ | hr⟩ := reapStatuses_visits rs r w
  · exact ⟨vs, hvs, hpre, by rw [hr], fun _ => hall⟩
  · exact ⟨vs, hvs, hpre, by rw [hr]; rfl, fun hc => by rw [hr] at hc; cases hc⟩

/-- Every cycle that returns has an account: the states are a first part of the monitored ones,
each is queried once, and each listed execution is skipped, remediated, or reported as not
attempted, whichever calls fail and whoever shuts the reaper down meanwhile. -/
theorem reapCycle_accounted {w w' : World} {r : CycleReport} (h : w.reapCycle = (.ok r, w')) :
    ∃ vs, Accounted w r w' vs := by
  obtain ⟨start, w₀, r₀, w₁, finish, w₂, hstart, hmid, hfinish, rfl, rfl⟩ := World.reapCycle_eq_ok h
  obtain ⟨vs, hvs, hrows, hr, hall⟩ :=
    World.reapStatuses_account w.policy.monitoredRules { startedAt := start } w₀
  rw [hmid] at hvs hr hall
  dsimp only at hvs hr hall
  have hw₀ : w.Made [] w₀ := by have := w.readClock_made; rwa [hstart] at this
  have hw₂ : w₁.Made [] w₂ := by have := w₁.readClock_made; rwa [hfinish] at this
  obtain ⟨new, hnew, hreq⟩ := (hw₀.trans (hvs.made.trans hw₂)).calls
  have hscanned : r₀.scanned = vs.map Visit.status := by rw [hr]; rfl
  have herrors : r₀.queryErrors = Keyed.insertAll (vs.flatMap Visit.queryErrors) [] := by rw [hr]; rfl
  have hnodup := nodup_of_rows hrows
  have hruled := ruled_of_rows hrows
  have hstatus : (vs.map Visit.row).map Prod.fst = vs.map Visit.status := by rw [List.map_map]; rfl
  have hkeys : ∀ status, status ∈ Keyed.keys r₀.queryErrors ↔
      ∃ v ∈ vs, v.status = status ∧ ∃ f, v.answer = .error f := by
    intro status
    rw [herrors, Keyed.mem_keys_insertAll, mem_keys_queryErrors]
    simp [Keyed.keys]
  have hqueries : new.filter Call.isQuery =
      if w.script.lacks .store then [] else vs.map Visit.query := by
    have hsub : new.filter Call.isQuery = (new.filter Call.isRequest).filter Call.isQuery := by
      rw [List.filter_filter]
      refine List.filter_congr fun c _ => ?_
      cases c <;> rfl
    rw [hsub, hreq, List.nil_append, List.append_nil, queries_of_visits]
  exact ⟨vs, {
    visited := ⟨w₀, w₁, w₂, finish, by rw [hr]; exact hstart, hvs, hfinish, rfl⟩
    scanned := hscanned
    nodup := by rw [hscanned]; exact hnodup
    inOrder := by
      rw [hscanned, ← hstatus]
      exact hrows.map Prod.fst
    complete := fun hc => by
      rw [hscanned, ← hstatus, hall hc]
      rfl
    ruled := hruled
    queries := by
      refine ⟨new, hnew, hqueries, fun status field maxAge hmem => ?_⟩
      have hvisit : Call.query status field maxAge ∈ vs.map Visit.query := by
        have hf := List.mem_filter.2 ⟨hmem, (rfl : Call.isQuery (.query status field maxAge) = true)⟩
        rw [hqueries] at hf
        split at hf
        · cases hf
        · exact hf
      obtain ⟨v, hv, hq⟩ := List.mem_map.1 hvisit
      simp only [Visit.query, Call.query.injEq] at hq
      obtain ⟨rfl, rfl, rfl⟩ := hq
      exact ⟨v.rule, (hruled v hv).1, (hruled v hv).2, rfl, rfl⟩
    unlisted_iff := by
      intro v hv
      rw [hkeys]
      constructor
      · rintro ⟨u, hu, hus, f, hf⟩
        -- The states of the visits are distinct, so the failed visit to this state is this one.
        exact ⟨f, List.inj_on_of_nodup_map hnodup hu hv hus ▸ hf⟩
      · rintro ⟨f, hf⟩
        exact ⟨v, hv, rfl, f, hf⟩
    unlisted_scanned := by
      intro status hs
      obtain ⟨v, hv, rfl, -⟩ := (hkeys status).1 hs
      exact hscanned ▸ List.mem_map_of_mem hv
    unlisted := by
      intro v hv f hf
      obtain ⟨u, u', hvisit⟩ := hvs.visited v hv
      refine ⟨?_, hvisit.turns_eq_nil hf⟩
      have hmem : (v.status, f.message) ∈ vs.flatMap Visit.queryErrors :=
        List.mem_flatMap.2 ⟨v, hv, by simp [Visit.queryErrors, hf]⟩
      show Keyed.find? v.status r₀.queryErrors = some f.message
      rw [herrors]
      exact Keyed.find?_insertAll_of_mem (hnodup.sublist (keys_queryErrors_sublist vs)) hmem []
    listed := by
      intro v hv ls hls
      obtain ⟨u, u', hvisit⟩ := hvs.visited v hv
      exact hvisit.turns_listed hls
    skipped := by rw [hr]; rfl
    undecided := by rw [hr]; rfl
    remediations := by rw [hr]; rfl
    attempted := by
      intro v hv l m hm
      obtain ⟨u, u', hvisit⟩ := hvs.visited v hv
      exact ⟨hvisit.tried hm, (hvisit.tried hm).attempted⟩
    notAttempted := World.pending_attempted }⟩

/-! ## A cycle with every kind of fate -/

def minutes (n : Nat) (h : n ≤ 1000 := by omega) : Duration :=
  ⟨n * 60000000, by omega, by omega⟩

/-- So many minutes after the calendar begins. -/
def minuteOf (n : Nat) (h : n ≤ 1000 := by omega) : Moment :=
  { clock := n * 60000000, offset := none }

/-- The store fails for one state and lists three executions for another. The first of them is
fresh, and during the cancellation of the second somebody shuts the reaper down, whose worker does
not end. -/
def interrupted : World where
  policy := .ofRules [(.dispatching, ⟨minutes 10, .submit⟩),
    (.running, ⟨⟨-60000000, by omega, by omega⟩, .start⟩),
    (.preparing, ⟨minutes 15, .submit⟩), (.killing, ⟨minutes 15, .update⟩)]
  interval := .int 600
  grace := .int 30
  devPodGrace := minutes 60
  script := {
    storeFault := fun status => if status = .dispatching then some "down" else none
    shutdowns := fun c => if c = .cancel 2 "ada" then [none] else [] }
  executions := [95, 20, 30].zipIdx.map fun (minute, i) =>
    { id := i + 1, flow := "f", status := .preparing, user := "ada",
      submitTime := Moment.ofClock? (minute * 60000000) none }
  clock := { now := minuteOf 100 }
  service := (Service.start { scripts := [⟨none, false⟩] }).2

def interruptedReport : CycleReport where
  startedAt := minuteOf 100
  finishedAt := some (minuteOf 100)
  scanned := [.dispatching, .preparing]
  queryErrors := [(.dispatching, "down")]
  skipped := [1]
  remediations := [⟨2, .preparing, RemediationStep.all.map fun step => ⟨step, .success, none⟩⟩,
    .notAttempted 3 .preparing World.cancelledReason]
  cancelled := true

theorem interrupted_accounted :
    interrupted.reapCycle.1 = .ok interruptedReport ∧
      ∃ vs, Accounted interrupted interruptedReport interrupted.reapCycle.2 vs :=
  ⟨rfl, reapCycle_accounted (Prod.ext rfl rfl)⟩

end Reaper

end FlowWarden
