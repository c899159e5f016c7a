import FlowWarden.Proofs.Reaper.Cancellation
import FlowWarden.Proofs.Reaper.Eligibility
import FlowWarden.Proofs.Reaper.Treatments
/-!
# Executions that come up again

Cancelling an execution may move it to a state that the same cycle looks at later, and then it is
listed again. `reapCycle_recurrence` says how far that goes: an execution that is attempted a second
time has been moved there by its first cancellation, and is stale by the rule of that state too. It
is not attempted a third time.
-/

namespace FlowWarden.Reaper

namespace Call

/-- A cancellation of the execution with the given number. -/
def cancels (id : Int) : Call → Bool
  | cancel i _ => i == id
  | _ => false

end Call

namespace World

/-- The state that a cancellation moves an execution to, if it moves it. -/
def target (w : World) : Option Status :=
  if w.script.lacks .canceller then none else w.script.cancelTo

/-- An execution after its cancellation. -/
def moved (w : World) (e : Execution) : Execution :=
  match w.target with
  | some status => { e with status }
  | none => e

theorem moved_id (w : World) (e : Execution) : (w.moved e).id = e.id := by
  unfold moved
  cases w.target <;> rfl

theorem moved_status (w : World) (e : Execution) :
    (w.moved e).status = e.status ∨ w.target = some (w.moved e).status := by
  unfold moved
  cases w.target with
  | none => exact .inl rfl
  | some status => exact .inr rfl

theorem cancel_moves (w : World) (l : Listed) :
    (w.cancel l).2.executions = w.executions.modify l.place w.moved := by
  unfold cancel
  by_cases hl : w.script.lacks .canceller = true
  · rw [if_pos hl]
    have hmoved : w.moved = id := by
      funext e
      simp [moved, target, hl]
    rw [hmoved, List.modify_id]
  · rw [if_neg hl]
    dsimp only
    rw [shutdowns_executions]
    have hmoved : w.moved = w.cancelled := by
      funext e
      simp only [moved, target, hl, cancelled]
      rfl
    rw [hmoved]
    rfl

theorem conclude_executions (w : World) (step : RemediationStep) (what : String)
    (answer : Except Failure Unit) : (w.conclude step what answer).2.executions = w.executions :=
  (conclude_eq w step what answer).2.executions

theorem cancelStep_moves (w : World) (l : Listed) (prior : Status) :
    (w.cancelStep l prior).2.executions = w.executions.modify l.place w.moved := by
  unfold cancelStep
  dsimp only
  rw [conclude_executions, cancel_moves]
  rfl

theorem restartStep_executions (w : World) (l : Listed) (prior : Status) :
    (w.restartStep l prior).2.executions = w.executions := by
  unfold restartStep
  dsimp only
  rw [conclude_executions, restart_executions]
  rfl

theorem deleteStep_executions (w : World) (l : Listed) :
    (w.deleteStep l).2.executions = w.executions := by
  unfold deleteStep
  dsimp only
  rw [conclude_executions, delete_executions]

end World

/-! ## What a step does to the executions and the states -/

namespace Stage

/-- The state whose list is being dealt with and those that are left, with their rules. -/
def rows : Stage → List (Status × StalenessRule)
  | between rows => rows
  | within rest | cancelled _ _ rest | restarted _ _ _ rest =>
    (rest.status, rest.rule) :: rest.states

end Stage

/-- The turn of an execution that the check finds stale: the next step cancels it. -/
inductive Attempt : Point → Status → StalenessRule → Listed → Point → Prop
  | mk {s rule l ls rows r w q} :
      Step ⟨.within ⟨s, rule, l :: ls, rows⟩, r, w⟩ (some (World.cancelCall l)) q →
      Attempt ⟨.within ⟨s, rule, l :: ls, rows⟩, r, w⟩ s rule l q

section

variable {p q : Point} {call : Option Call} {calls : List Call} {id : Int} {user : String}
  {s : Status} {rule : StalenessRule} {l : Listed}

/-- An attempt goes by the check at its point, and moves the execution at its place. -/
theorem Attempt.spec (h : Attempt p s rule l q) :
    ∃ ls rows c w', p.stage = .within ⟨s, rule, l :: ls, rows⟩ ∧
      q.stage = .cancelled l c ⟨s, rule, ls, rows⟩ ∧ p.world.check s rule l = (.ok .stale, w') ∧
      q.world.executions = p.world.executions.modify l.place p.world.moved := by
  obtain ⟨hstep⟩ := h
  generalize hcall : some (World.cancelCall l) = call at hstep
  cases hstep with
  | @cancel _ _ _ _ _ _ _ w' _ c _ hcheck hcancel =>
    refine ⟨_, _, c, w', rfl, rfl, hcheck, ?_⟩
    have hmoves := w'.cancelStep_moves l l.execution.status
    rw [hcancel] at hmoves
    obtain ⟨clock, log, rfl⟩ := World.check_world hcheck
    exact hmoves
  | cutListed | spared | undecided => cases hcall

/-- An attempt moves the execution at its place and leaves the others as they are. -/
theorem Attempt.execution_cases (h : Attempt p s rule l q) {e : Execution} {i : Nat}
    (he : q.world.executions[i]? = some e) :
    ∃ e₀, p.world.executions[i]? = some e₀ ∧
      (l.place = i ∧ e = p.world.moved e₀ ∨ l.place ≠ i ∧ e = e₀) := by
  obtain ⟨_, _, _, _, -, -, -, hmoves⟩ := h.spec
  rw [hmoves, List.getElem?_modify] at he
  obtain ⟨e₀, he₀, rfl⟩ := Option.map_eq_some_iff.1 he
  refine ⟨e₀, he₀, ?_⟩
  by_cases hplace : l.place = i
  · exact .inl ⟨hplace, if_pos hplace⟩
  · exact .inr ⟨hplace, if_neg hplace⟩

theorem Attempt.step (h : Attempt p s rule l q) : Step p (some (World.cancelCall l)) q := by
  cases h with
  | mk h => exact h

/-- The execution is handed back from the state that it was listed with. -/
theorem Attempt.restarts (h : Attempt p s rule l q) :
    ∃ q', Step q (some (.restart l.execution.id l.execution.status)) q' := by
  obtain ⟨ls, rows, c, w', -, hstage, -, -⟩ := h.spec
  obtain ⟨stage, r, w⟩ := q
  obtain rfl : stage = _ := hstage
  exact ⟨_, .restart rfl⟩

/-- Only an attempt cancels an execution. -/
theorem Step.attempt (h : Step p (some (.cancel id user)) q) :
    ∃ s rule l, Attempt p s rule l q ∧ l.execution.id = id := by
  generalize hcall : some (Call.cancel id user) = call at h
  cases h with
  | cancel hclear hcheck hcancel =>
    cases hcall
    exact ⟨_, _, _, .mk (.cancel hclear hcheck hcancel), rfl⟩
  | cutStates | unlisted | list | next | cutListed | spared | undecided | restart | delete =>
    cases hcall

/-- Every other step leaves the executions as they are. -/
theorem Step.executions (h : Step p call q) (hcall : ∀ id user, call ≠ some (.cancel id user)) :
    q.world.executions = p.world.executions := by
  cases h with
  | cutStates | next | cutListed => rfl
  | unlisted _ hq | list _ hq =>
    have hsame := World.query_executions hq
    exact hsame
  | spared _ hc _ | undecided _ hc =>
    have hsame := (World.check_quiet hc).executions
    exact hsame
  | cancel => exact absurd rfl (hcall _ _)
  | @restart l _ _ _ w _ _ hstep =>
    have hsame := w.restartStep_executions l l.execution.status
    rwa [hstep] at hsame
  | @delete l _ _ _ _ w _ _ hstep =>
    have hsame := w.deleteStep_executions l
    rwa [hstep] at hsame

/-- The states are taken in order. -/
theorem Step.rows_suffix (h : Step p call q) : q.stage.rows <:+ p.stage.rows := by
  cases h with
  | cutStates => exact List.nil_suffix
  | unlisted | next | cutListed => exact List.suffix_cons _ _
  | list | spared | undecided | cancel | restart | delete => exact List.suffix_rfl

theorem Step.unvisited_suffix (h : Step p call q) : q.stage.unvisited <:+ p.stage.unvisited := by
  cases h with
  | cutStates => exact List.nil_suffix
  | unlisted | list => exact List.suffix_cons _ _
  | next | cutListed | spared | undecided | cancel | restart | delete => exact List.suffix_rfl

theorem Step.target_eq (h : Step p call q) : q.world.target = p.world.target := by
  simp only [World.target, h.made.script]

/-! ## What is listed at every point -/

/-- The executions have distinct numbers, and those that are left of a list are where they were and
in the state that they were listed for. -/
structure Point.Listing (p : Point) : Prop where
  ids : (p.world.executions.map Execution.id).Nodup
  inPlace : InPlace p.world p.stage.unreached
  status : ∀ l ∈ p.stage.unreached, ∃ rule, p.stage.rows.head? = some (l.execution.status, rule)

theorem query_status {w w' : World} {ls : List Listed} (h : w.query s rule = (.ok ls, w')) :
    ∀ l ∈ ls, l.execution.status = s := by
  unfold World.query at h
  split at h
  next => cases h
  next =>
    dsimp only at h
    split at h
    next => cases h
    next =>
      cases h
      intro l hl
      obtain ⟨e, he, rfl⟩ := List.mem_map.1 hl
      simpa using (List.mem_filter.1 he).2

theorem InPlace.nil (w : World) : InPlace w [] :=
  ⟨by simp, by simp⟩

theorem InPlace.congr {w w' : World} {ls : List Listed} (h : InPlace w ls)
    (hsame : w'.executions = w.executions) : InPlace w' ls :=
  ⟨fun l hl => by rw [hsame]; exact h.found l hl, h.nodup⟩

theorem InPlace.of_cons {w : World} {ls : List Listed} (h : InPlace w (l :: ls)) : InPlace w ls :=
  ⟨fun k hk => h.found k (List.mem_cons_of_mem _ hk), (List.nodup_cons.1 h.nodup).2⟩

theorem map_id_modify (w : World) (place : Nat) :
    (w.executions.modify place w.moved).map Execution.id = w.executions.map Execution.id := by
  apply List.ext_getElem?
  intro i
  rw [List.getElem?_map, List.getElem?_map, List.getElem?_modify]
  cases w.executions[i]? with
  | none => rfl
  | some e =>
    by_cases hi : place = i
    · simp [hi, w.moved_id]
    · simp [hi]

/-- With distinct numbers, executions of one number are at one place. -/
theorem place_unique {es : List Execution} {i j : Nat} {e e' : Execution}
    (hn : (es.map Execution.id).Nodup) (hi : es[i]? = some e) (hj : es[j]? = some e')
    (hid : e.id = e'.id) : i = j := by
  have hi' : (es.map Execution.id)[i]? = some e.id := by rw [List.getElem?_map, hi]; rfl
  have hj' : (es.map Execution.id)[j]? = some e.id := by rw [List.getElem?_map, hj, hid]; rfl
  obtain ⟨hlt, hget⟩ := List.getElem?_eq_some_iff.1 hi'
  obtain ⟨hlt', hget'⟩ := List.getElem?_eq_some_iff.1 hj'
  exact (List.Nodup.getElem_inj_iff hn).1 (hget.trans hget'.symm)

theorem Attempt.listing (h : Attempt p s rule l q) (hp : p.Listing) : q.Listing := by
  obtain ⟨ls, rows, c, w', hpstage, hqstage, -, hmoves⟩ := h.spec
  have hplace := hp.inPlace
  have hstatus := hp.status
  rw [hpstage] at hplace hstatus
  refine ⟨?_, ?_, ?_⟩
  · rw [hmoves, map_id_modify]
    exact hp.ids
  · rw [hqstage]
    refine ⟨?_, hplace.of_cons.nodup⟩
    intro k hk
    have hne : l.place ≠ k.place := by
      intro heq
      exact (List.nodup_cons.1 hplace.nodup).1 (heq ▸ List.mem_map_of_mem hk)
    rw [hmoves, List.getElem?_modify_ne _ _ hne]
    exact hplace.found k (List.mem_cons_of_mem _ hk)
  · rw [hqstage]
    intro k hk
    exact hstatus k (List.mem_cons_of_mem _ hk)

theorem Step.listing (h : Step p call q) (hp : p.Listing) : q.Listing := by
  by_cases hcall : ∃ id user, call = some (.cancel id user)
  · obtain ⟨id, user, rfl⟩ := hcall
    obtain ⟨s, rule, l, hattempt, -⟩ := h.attempt
    exact hattempt.listing hp
  · have hsame := h.executions (fun id user heq => hcall ⟨id, user, heq⟩)
    have hids : (q.world.executions.map Execution.id).Nodup := by
      rw [hsame]
      exact hp.ids
    cases h with
    | cutStates | unlisted | next | cutListed => exact ⟨hids, .nil _, by simp [Stage.unreached]⟩
    | list _ hq =>
      refine ⟨hids, query_inPlace hq, ?_⟩
      intro l hl
      rw [query_status hq l hl]
      exact ⟨_, rfl⟩
    | spared | undecided =>
      exact ⟨hids, (hp.inPlace.congr hsame).of_cons,
        fun k hk => hp.status k (List.mem_cons_of_mem _ hk)⟩
    | cancel => exact absurd ⟨_, _, rfl⟩ hcall
    | restart | delete => exact ⟨hids, hp.inPlace.congr hsame, hp.status⟩

theorem Steps.listing (h : Steps p calls q) (hp : p.Listing) : q.Listing := by
  induction h with
  | refl => exact hp
  | step hstep _ ih => exact ih (hstep.listing hp)

/-- An execution is attempted in its own state. -/
theorem Attempt.listed (h : Attempt p s rule l q) (hp : p.Listing) :
    l.execution.status = s ∧ l ∈ p.stage.unreached ∧ ∃ rows, p.stage.rows = (s, rule) :: rows := by
  obtain ⟨ls, rows, c, w', hpstage, -, -, -⟩ := h.spec
  have hmem : l ∈ p.stage.unreached := by simp [hpstage, Stage.unreached]
  refine ⟨?_, hmem, rows, ?_⟩
  · obtain ⟨rule', hrow⟩ := hp.status l hmem
    rw [hpstage] at hrow
    exact (congrArg Prod.fst (Option.some.inj hrow)).symm
  · rw [hpstage]
    rfl

/-! ## After an attempt -/

/-- The execution has been attempted in the state `s`. It is in that state still or where the
cancellation moves it, the state will not be looked at again, and if the execution is listed, then
where the cancellation has moved it. -/
structure Point.Attempted (p : Point) (id : Int) (s : Status) : Prop where
  moved : ∀ e ∈ p.world.executions, e.id = id → e.status = s ∨ p.world.target = some e.status
  past : s ∉ p.stage.unvisited.map Prod.fst
  again : ∀ l ∈ p.stage.unreached, l.execution.id = id →
    l.execution.status ≠ s ∧ p.world.target = some l.execution.status

/-- The states that are left at a point are distinct. -/
def Point.Ordered (p : Point) : Prop :=
  (p.stage.rows.map Prod.fst).Nodup

theorem Step.ordered (h : Step p call q) (hp : p.Ordered) : q.Ordered :=
  hp.sublist (h.rows_suffix.sublist.map _)

theorem Attempt.attempted (h : Attempt p s rule l q) (hp : p.Listing) (ho : p.Ordered) :
    q.Attempted l.execution.id s := by
  have htarget := h.step.target_eq
  obtain ⟨hs, hmem, -⟩ := h.listed hp
  have hfound := hp.inPlace.found l hmem
  obtain ⟨ls, rows, c, w', hpstage, hqstage, -, -⟩ := h.spec
  refine ⟨?_, ?_, ?_⟩
  · intro e he hid
    obtain ⟨i, hi⟩ := List.mem_iff_getElem?.1 he
    rw [htarget]
    obtain ⟨e₀, he₀, ⟨rfl, rfl⟩ | ⟨hplace, rfl⟩⟩ := h.execution_cases hi
    · obtain rfl := Option.some.inj (hfound.symm.trans he₀)
      rw [← hs]
      exact p.world.moved_status l.execution
    · -- No other place holds an execution with this number.
      exact absurd (place_unique hp.ids hfound he₀ hid.symm) hplace
  · have hnodup := ho
    rw [Point.Ordered, hpstage] at hnodup
    rw [hqstage]
    exact (List.nodup_cons.1 hnodup).1
  · rw [hqstage]
    intro k hk hid
    have hplaces := hp.inPlace.nodup
    have hkfound := hp.inPlace.found k (by
      rw [hpstage]
      exact List.mem_cons_of_mem _ hk)
    have heq := place_unique hp.ids hkfound hfound hid
    rw [hpstage] at hplaces
    exact absurd (heq ▸ List.mem_map_of_mem hk) (List.nodup_cons.1 hplaces).1

/-- A cancellation moves an execution as it moves the one that has been attempted. -/
theorem Attempt.keeps {s' : Status} (h : Attempt p s' rule l q) (ha : p.Attempted id s) :
    q.Attempted id s := by
  have htarget := h.step.target_eq
  obtain ⟨ls, rows, c, w', hpstage, hqstage, -, -⟩ := h.spec
  refine ⟨?_, ?_, ?_⟩
  · intro e he hid
    obtain ⟨i, hi⟩ := List.mem_iff_getElem?.1 he
    rw [htarget]
    obtain ⟨e₀, he₀, ⟨-, rfl⟩ | ⟨-, rfl⟩⟩ := h.execution_cases hi
    · rw [p.world.moved_id] at hid
      rcases p.world.moved_status e₀ with hsame | hto
      · rw [hsame]
        exact ha.moved e₀ (List.mem_of_getElem? he₀) hid
      · exact .inr hto
    · exact ha.moved e (List.mem_of_getElem? he₀) hid
  · rw [hqstage]
    have hpast := ha.past
    rwa [hpstage] at hpast
  · rw [htarget, hqstage]
    intro k hk
    apply ha.again
    rw [hpstage]
    exact List.mem_cons_of_mem _ hk

/-- What holds of an execution that has been attempted holds after every further step. -/
theorem Step.attempted (h : Step p call q) (ha : p.Attempted id s) : q.Attempted id s := by
  by_cases hcall : ∃ i user, call = some (.cancel i user)
  · obtain ⟨i, user, rfl⟩ := hcall
    obtain ⟨s', rule, l, hattempt, -⟩ := h.attempt
    exact hattempt.keeps ha
  · have htarget := h.target_eq
    have hsame := h.executions (fun i user heq => hcall ⟨i, user, heq⟩)
    have hmoved : ∀ e ∈ q.world.executions, e.id = id →
        e.status = s ∨ q.world.target = some e.status := by
      rw [hsame, htarget]
      exact ha.moved
    have hpast : s ∉ q.stage.unvisited.map Prod.fst := fun hmem =>
      ha.past ((h.unvisited_suffix.sublist.map _).subset hmem)
    refine ⟨hmoved, hpast, ?_⟩
    rw [htarget]
    cases h with
    | cutStates | unlisted | next | cutListed => simp [Stage.unreached]
    | list hclear hq =>
      -- A new list: its state is another one than `s`.
      intro l hl hid
      have hne : l.execution.status ≠ s := by
        rintro rfl
        apply ha.past
        rw [query_status hq l hl]
        exact List.mem_cons_self
      have hmem := List.mem_of_getElem? ((query_inPlace hq).found l hl)
      rw [← htarget]
      exact ⟨hne, (hmoved l.execution hmem hid).resolve_left hne⟩
    | spared | undecided => exact fun l hl => ha.again l (List.mem_cons_of_mem _ hl)
    | cancel => exact absurd ⟨_, _, rfl⟩ hcall
    | restart | delete => exact ha.again

theorem Steps.attempted (h : Steps p calls q) (ha : p.Attempted id s) : q.Attempted id s := by
  induction h with
  | refl => exact ha
  | step hstep _ ih => exact ih (hstep.attempted ha)

/-- A second attempt comes where the cancellation moves the execution, and nowhere else. -/
theorem Attempt.again {s' : Status} (h : Attempt p s' rule l q) (hp : p.Listing)
    (ha : p.Attempted l.execution.id s) : s' ≠ s ∧ p.world.target = some s' := by
  obtain ⟨hstatus, hmem, -⟩ := h.listed hp
  have hagain := ha.again l hmem rfl
  rwa [hstatus] at hagain

/-! ## How often an execution is attempted -/

theorem Step.count_cancels (h : Step p call q) (id : Int) :
    call.toList.countP (Call.cancels id) = 0 ∨ call.toList.countP (Call.cancels id) = 1 ∧
      ∃ s rule l, Attempt p s rule l q ∧ l.execution.id = id := by
  by_cases hcall : ∃ user, call = some (.cancel id user)
  · obtain ⟨user, rfl⟩ := hcall
    exact .inr ⟨by simp [Call.cancels], h.attempt⟩
  · left
    rw [List.countP_eq_zero]
    intro c hc hcancels
    obtain rfl := Option.mem_toList.1 hc
    cases c with
    | cancel i user =>
      obtain rfl : i = id := by simpa [Call.cancels] using hcancels
      exact hcall ⟨user, rfl⟩
    | query | restart | delete | shutdown | join | startWorker => cases hcancels

/-- An execution that the cancellation has not moved to a state still to come is left alone. -/
theorem Steps.count_settled (h : Steps p calls q) (hp : p.Listing) (ha : p.Attempted id s)
    (hto : ∀ t, p.world.target = some t → t = s ∨ t ∉ p.stage.rows.map Prod.fst) :
    calls.countP (Call.cancels id) = 0 := by
  induction h with
  | refl => rfl
  | @step p p' q call calls hstep _ ih =>
    rw [List.countP_append]
    rcases hstep.count_cancels id with hnone | ⟨-, s', rule, l, hattempt, rfl⟩
    · rw [hnone, Nat.zero_add]
      apply ih (hstep.listing hp) (hstep.attempted ha)
      intro t ht
      rw [hstep.target_eq] at ht
      refine (hto t ht).imp_right fun hnot hmem => hnot ?_
      exact (hstep.rows_suffix.sublist.map _).subset hmem
    · obtain ⟨hne, htarget⟩ := hattempt.again hp ha
      obtain ⟨-, -, rows, hrows⟩ := hattempt.listed hp
      rcases hto s' htarget with heq | hnot
      · exact absurd heq hne
      · exact absurd (by simp [hrows]) hnot

theorem Steps.count_attempted (h : Steps p calls q) (hp : p.Listing) (ho : p.Ordered)
    (ha : p.Attempted id s) : calls.countP (Call.cancels id) ≤ 1 := by
  induction h with
  | refl => exact Nat.zero_le 1
  | @step p p' q call calls hstep hrest ih =>
    rw [List.countP_append]
    rcases hstep.count_cancels id with hnone | ⟨hone, s', rule, l, hattempt, rfl⟩
    · rw [hnone, Nat.zero_add]
      exact ih (hstep.listing hp) (hstep.ordered ho) (hstep.attempted ha)
    · -- After a second attempt the execution is where the cancellation moves it.
      obtain ⟨-, htarget⟩ := hattempt.again hp ha
      have hsettled := hrest.count_settled (hstep.listing hp) (hattempt.attempted hp ho) (by
        intro t ht
        rw [hstep.target_eq, htarget] at ht
        exact .inl (Option.some.inj ht).symm)
      omega

theorem Steps.count_le (h : Steps p calls q) (hp : p.Listing) (ho : p.Ordered) (id : Int) :
    calls.countP (Call.cancels id) ≤ 2 := by
  induction h with
  | refl => exact Nat.zero_le 2
  | @step p p' q call calls hstep hrest ih =>
    rw [List.countP_append]
    rcases hstep.count_cancels id with hnone | ⟨hone, s', rule, l, hattempt, rfl⟩
    · rw [hnone, Nat.zero_add]
      exact ih (hstep.listing hp) (hstep.ordered ho)
    · have hmore := hrest.count_attempted (hstep.listing hp) (hstep.ordered ho)
        (hattempt.attempted hp ho)
      omega

/-- Where the cancellation moves nothing to a state that is looked at, nothing is attempted
twice. -/
theorem Steps.count_unmoved (h : Steps p calls q) (hp : p.Listing) (ho : p.Ordered)
    (hto : ∀ t, p.world.target = some t → t ∉ p.stage.rows.map Prod.fst) (id : Int) :
    calls.countP (Call.cancels id) ≤ 1 := by
  induction h with
  | refl => exact Nat.zero_le 1
  | @step p p' q call calls hstep hrest ih =>
    have hnext : ∀ t, p'.world.target = some t → t ∉ p'.stage.rows.map Prod.fst := by
      intro t ht hmem
      rw [hstep.target_eq] at ht
      exact hto t ht ((hstep.rows_suffix.sublist.map _).subset hmem)
    rw [List.countP_append]
    rcases hstep.count_cancels id with hnone | ⟨hone, s', rule, l, hattempt, rfl⟩
    · rw [hnone, Nat.zero_add]
      exact ih (hstep.listing hp) (hstep.ordered ho) hnext
    · have hsettled := hrest.count_settled (hstep.listing hp) (hattempt.attempted hp ho)
        (fun t ht => .inr (hnext t ht))
      omega

/-! ## What the report shows of it -/

/-- The numbers of the executions that a report shows as attempted, in order. -/
def attemptsOf (r : CycleReport) : List Int :=
  (r.remediations.filter Remediation.attempted).map Remediation.id

/-- The numbers of the executions that have been attempted up to a point, in order. -/
def Point.attempts (p : Point) : List Int :=
  attemptsOf p.report ++ p.stage.inHand.toList.map fun l => l.execution.id

theorem Step.attempts (h : Step p call q) (hp : p.Sound) :
    q.attempts.count id = p.attempts.count id + call.toList.countP (Call.cancels id) := by
  cases h with
  | cutStates | unlisted | list | next | spared | undecided | restart =>
    simp [Point.attempts, attemptsOf, Stage.inHand, CycleReport.cutShort, CycleReport.scan,
      CycleReport.skip, CycleReport.queryFailed, CycleReport.undecided, Call.cancels]
  | cutListed =>
    have hpending : ∀ ls : List Listed,
        (ls.map World.pending).filter Remediation.attempted = [] := by
      intro ls
      simp [List.filter_eq_nil_iff, World.pending_attempted]
    simp only [Point.attempts, attemptsOf, Stage.inHand, CycleReport.remediated,
      CycleReport.cutShort, List.filter_append, hpending]
    simp
  | cancel =>
    simp [Point.attempts, attemptsOf, Stage.inHand, World.cancelCall, Call.cancels, List.count_cons]
  | @delete l c again rest r w w' d hdelete =>
    obtain ⟨hc, hagain⟩ := hp.called
    have hd := w.deleteStep_called l
    rw [hdelete] at hd
    have hattempted := (World.tried_of_called (l := l) hc hagain hd).attempted
    simp [Point.attempts, attemptsOf, Stage.inHand, CycleReport.remediated, hattempted,
      Call.cancels]

theorem Steps.attempts (h : Steps p calls q) (hp : p.Sound) (id : Int) :
    q.attempts.count id = p.attempts.count id + calls.countP (Call.cancels id) := by
  induction h with
  | refl => rfl
  | step hstep _ ih =>
    rw [ih (hstep.sound hp), hstep.attempts hp, List.countP_append, Nat.add_assoc]

/-! ## In the table -/

theorem Steps.rows_suffix (h : Steps p calls q) : q.stage.rows <:+ p.stage.rows := by
  induction h with
  | refl => exact List.suffix_rfl
  | step hstep _ ih => exact ih.trans hstep.rows_suffix

theorem Steps.ordered (h : Steps p calls q) (hp : p.Ordered) : q.Ordered :=
  hp.sublist (h.rows_suffix.sublist.map _)

theorem Steps.target_eq (h : Steps p calls q) : q.world.target = p.world.target := by
  simp only [World.target, h.made.script]

theorem World.opening_listing {w : World} (h : (w.executions.map Execution.id).Nodup)
    (start : Moment) : (w.opening start).Listing :=
  ⟨h, .nil _, by simp [World.opening, Stage.unreached]⟩

theorem World.opening_ordered (w : World) (start : Moment) : (w.opening start).Ordered :=
  w.policy.distinct.sublist (List.filter_sublist.map Prod.fst)

/-! ## The check at an attempt -/

theorem Attempt.outdated (h : Attempt p s rule l q) :
    ∃ now w, p.world.readClock = (.ok now, w) ∧ Outdated now rule l.execution := by
  obtain ⟨_, _, _, _, -, -, hcheck, -⟩ := h.spec
  unfold World.check at hcheck
  split at hcheck
  next => cases hcheck
  next now w₁ hread =>
    refine ⟨now, w₁, hread, ?_⟩
    split at hcheck
    next => cases hcheck
    next result _ =>
      apply verdict_stale
      exact congrArg Prod.fst hcheck

end

/-! ## How often a cycle attempts an execution -/

/-- An execution that was attempted under `s` is attempted again at `p`, as `l`, under `s'`, where
the attempt leads to `q`. -/
structure Returned (w : World) (s : Status) (p : Point) (s' : Status) (rule : StalenessRule)
    (l : Listed) (q : Point) : Prop where
  later : [s, s'].Sublist w.policy.monitored
  target : w.target = some s'
  status : l.execution.status = s'
  ruled : w.policy.ruleFor? s' = some rule
  outdated : ∃ now w', p.world.readClock = (.ok now, w') ∧ Outdated now rule l.execution
  restart : ∃ q', Step q (some (.restart l.execution.id s')) q'

/-- How far executions come up again in a cycle. -/
structure Recurrence (w : World) : Prop where
  again : ∀ start before between p s rule l q p' s' rule' l' q',
    Steps (w.opening start) before p → Attempt p s rule l q →
    Steps q between p' → Attempt p' s' rule' l' q' → l'.execution.id = l.execution.id →
    Returned w s p' s' rule' l' q'
  /-- No execution is attempted more than twice. -/
  twice : ∀ start calls q id, Steps (w.opening start) calls q → calls.countP (Call.cancels id) ≤ 2
  /-- An attempt is the last one, unless the cancellation moves to a state that comes later. -/
  last : ∀ start before after p s rule l q q',
    Steps (w.opening start) before p → Attempt p s rule l q → Steps q after q' →
    (∀ t, w.target = some t → t ∉ w.policy.monitored ∨ ¬ [s, t].Sublist w.policy.monitored) →
    after.countP (Call.cancels l.execution.id) = 0
  once : (∀ t, w.target = some t → t ∉ w.policy.monitored) →
    ∀ start calls q id, Steps (w.opening start) calls q → calls.countP (Call.cancels id) ≤ 1
  /-- What holds of the requests holds of the remediations in the report. -/
  reported : ∀ r w', w.reapCycle = (.ok r, w') → ∀ id, (attemptsOf r).count id ≤ 2 ∧
    ((∀ t, w.target = some t → t ∉ w.policy.monitored) → (attemptsOf r).count id ≤ 1)

section

variable {w : World} {p q : Point} {s : Status} {rule : StalenessRule} {l : Listed}

/-- A state that is left after the state of an attempt comes later in the table. -/
theorem Attempt.later {t : Status} (h : Attempt p s rule l q) (hp : p.Listing)
    (hrows : p.stage.rows <:+ w.policy.monitoredRules) (ht : t ∈ q.stage.rows.map Prod.fst)
    (hne : t ≠ s) : [s, t].Sublist w.policy.monitored := by
  obtain ⟨-, -, rows, hstage⟩ := h.listed hp
  have hq : t ∈ p.stage.rows.map Prod.fst := (h.step.rows_suffix.sublist.map Prod.fst).subset ht
  rw [hstage] at hq hrows
  have hmem : t ∈ rows.map Prod.fst := (List.mem_cons.1 hq).resolve_left hne
  exact ((List.singleton_sublist.2 hmem).cons_cons s).trans (hrows.sublist.map Prod.fst)

end

/-- In a cycle over executions with distinct numbers, an execution comes up again at most once, and
only where its cancellation has moved it. -/
theorem reapCycle_recurrence {w : World} (h : (w.executions.map Execution.id).Nodup) :
    Recurrence w where
  again := by
    intro start before between p s rule l q p' s' rule' l' q' hbefore hfirst hbetween hsecond hid
    have hp := hbefore.listing (w.opening_listing h start)
    have hp' := hbetween.listing (hfirst.listing hp)
    have hdone := hfirst.attempted hp (hbefore.ordered (w.opening_ordered start))
    rw [← hid] at hdone
    obtain ⟨hne, htarget⟩ := hsecond.again hp' (hbetween.attempted hdone)
    obtain ⟨hstatus, -, rows, hrows⟩ := hsecond.listed hp'
    have hleft : (s', rule') ∈ q.stage.rows :=
      hbetween.rows_suffix.subset (hrows ▸ List.mem_cons_self)
    have htable : (s', rule') ∈ w.policy.monitoredRules :=
      (hbefore.rows_suffix.subset (hfirst.step.rows_suffix.subset hleft))
    exact {
      later := hfirst.later hp hbefore.rows_suffix (List.mem_map_of_mem hleft) hne
      target := by
        rw [hbetween.target_eq, hfirst.step.target_eq, hbefore.target_eq] at htarget
        exact htarget
      status := hstatus
      ruled := Keyed.find?_of_mem w.policy.distinct (List.mem_filter.1 htable).1
      outdated := hsecond.outdated
      restart := hstatus ▸ hsecond.restarts }
  twice := by
    intro start calls q id hsteps
    exact hsteps.count_le (w.opening_listing h start) (w.opening_ordered start) id
  last := by
    intro start before after p s rule l q q' hbefore hattempt hafter hto
    have hp := hbefore.listing (w.opening_listing h start)
    have hdone := hattempt.attempted hp (hbefore.ordered (w.opening_ordered start))
    apply hafter.count_settled (hattempt.listing hp) hdone
    intro t ht
    rw [hattempt.step.target_eq, hbefore.target_eq] at ht
    by_cases hts : t = s
    · exact .inl hts
    · right
      intro hmem
      have hlater := hattempt.later hp hbefore.rows_suffix hmem hts
      rcases hto t ht with hnot | hnot
      · exact hnot (hlater.subset (by simp))
      · exact hnot hlater
  once := by
    intro hto start calls q id hsteps
    exact hsteps.count_unmoved (w.opening_listing h start) (w.opening_ordered start) hto id
  reported := by
    intro r w' hr id
    obtain ⟨calls, r₀, w₁, hsteps, heq, -, -⟩ := World.reapCycle_steps hr
    have hl := w.opening_listing h r.startedAt
    have ho := w.opening_ordered r.startedAt
    have hcount : (attemptsOf r).count id = calls.countP (Call.cancels id) := by
      have hattempts := hsteps.attempts (w.opening_sound _) id
      have hopening : (w.opening r.startedAt).attempts = [] := rfl
      have hend : Point.attempts ⟨.between [], r₀, w₁⟩ = attemptsOf r₀ := List.append_nil _
      have hsame : attemptsOf r = attemptsOf r₀ := by
        rw [heq]
        rfl
      rwa [hopening, hend, List.count_nil, Nat.zero_add, ← hsame] at hattempts
    rw [hcount]
    exact ⟨hsteps.count_le hl ho id, fun hto => hsteps.count_unmoved hl ho hto id⟩

/-- Two executions are stale where they are being prepared, and after that where they are being
killed. -/
def relapsing : World :=
  { interrupted with script := {} }

def relapsingReport : CycleReport :=
  { interruptedReport with
    scanned := [.dispatching, .preparing, .killing]
    queryErrors := []
    remediations := [(2, .preparing), (3, .preparing), (2, .killing), (3, .killing)].map
      fun (id, status) => ⟨id, status, RemediationStep.all.map fun step => ⟨step, .success, none⟩⟩
    cancelled := false }

theorem relapsing_recurrence :
    (relapsing.executions.map Execution.id).Nodup ∧
      relapsing.reapCycle.1 = .ok relapsingReport ∧ Recurrence relapsing :=
  ⟨by decide, rfl, reapCycle_recurrence (by decide)⟩

end FlowWarden.Reaper
