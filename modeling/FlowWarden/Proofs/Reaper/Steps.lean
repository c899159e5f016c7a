import FlowWarden.Proofs.Reaper.Account
/-!
# A cycle in single steps

A cycle seen as a machine. A `Point` says where the cycle stands and what it has reported so far;
`Step` goes to the next point and names the request that is made on the way, if one is. Between two
requests somebody may look at the cycle, or raise the cancel flag during one of them. The machine is
deterministic, and `reapStatuses_steps` says that it does what the cycle does.
-/

namespace FlowWarden.Reaper

/-- What is left of a cycle in the middle of a state. -/
structure Rest where
  status : Status
  rule : StalenessRule
  /-- The listed executions that are left. -/
  listed : List Listed
  /-- The states that are left after this one. -/
  states : List (Status × StalenessRule)

/-- Where a cycle stands. -/
inductive Stage
  /-- Before the first of these states. -/
  | between (rows : List (Status × StalenessRule))
  /-- Before the first of the executions that are left. -/
  | within (rest : Rest)
  /-- An execution has been cancelled. -/
  | cancelled (l : Listed) (c : StepResult) (rest : Rest)
  /-- An execution has been cancelled and handed back for restart. -/
  | restarted (l : Listed) (c r : StepResult) (rest : Rest)

namespace Stage

/-- The executions of the last list whose turn has not come. -/
def unreached : Stage → List Listed
  | between _ => []
  | within rest | cancelled _ _ rest | restarted _ _ _ rest => rest.listed

/-- The states that have not been looked at. -/
def unvisited : Stage → List (Status × StalenessRule)
  | between rows => rows
  | within rest | cancelled _ _ rest | restarted _ _ _ rest => rest.states

/-- The execution that is being remediated. -/
def inHand : Stage → Option Listed
  | between _ | within _ => none
  | cancelled l .. | restarted l .. => some l

/-- The requests that are still due for the execution in hand. -/
def due : Stage → List Call
  | between _ | within _ => []
  | cancelled l .. => [.restart l.execution.id l.execution.status, .delete l.execution.id]
  | restarted l .. => [.delete l.execution.id]

end Stage

/-- A point of a cycle. -/
structure Point where
  stage : Stage
  report : CycleReport
  world : World

/-- One step of a cycle, with the request that it makes. -/
inductive Step : Point → Option Call → Point → Prop
  | cutStates {row rows r w} : w.cancelling = true →
      Step ⟨.between (row :: rows), r, w⟩ none ⟨.between [], r.cutShort, w⟩
  | unlisted {status rule rows r w w' f} : w.cancelling = false →
      (w.say Log.info ("Cleaning up stale flows for status: " ++ status.name)).query status rule =
        (.error f, w') →
      Step ⟨.between ((status, rule) :: rows), r, w⟩ (some (.query status rule.field rule.maxAge))
        ⟨.between rows, (r.scan status).queryFailed status f.message,
          w'.say Log.error (unlistedText status f)⟩
  | list {status rule rows r w w' ls} : w.cancelling = false →
      (w.say Log.info ("Cleaning up stale flows for status: " ++ status.name)).query status rule =
        (.ok ls, w') →
      Step ⟨.between ((status, rule) :: rows), r, w⟩ (some (.query status rule.field rule.maxAge))
        ⟨.within ⟨status, rule, ls, rows⟩, r.scan status, w'⟩
  | next {status rule rows r w} :
      Step ⟨.within ⟨status, rule, [], rows⟩, r, w⟩ none ⟨.between rows, r, w⟩
  | cutListed {status rule l ls rows r w} : w.cancelling = true →
      Step ⟨.within ⟨status, rule, l :: ls, rows⟩, r, w⟩ none
        ⟨.between rows, r.cutShort.remediated ((l :: ls).map World.pending), w⟩
  | spared {status rule l ls rows r w w' v} : w.cancelling = false →
      w.check status rule l = (.ok v, w') → v ≠ .stale →
      Step ⟨.within ⟨status, rule, l :: ls, rows⟩, r, w⟩ none
        ⟨.within ⟨status, rule, ls, rows⟩, r.skip l.execution.id, w'⟩
  | undecided {status rule l ls rows r w w' f} : w.cancelling = false →
      w.check status rule l = (.error f, w') →
      Step ⟨.within ⟨status, rule, l :: ls, rows⟩, r, w⟩ none
        ⟨.within ⟨status, rule, ls, rows⟩,
          (r.undecided l.execution.id f.message).skip l.execution.id,
          w'.say Log.error (undecidedText l f)⟩
  | cancel {status rule l ls rows r w w' w'' c} : w.cancelling = false →
      w.check status rule l = (.ok .stale, w') →
      w'.cancelStep l l.execution.status = (c, w'') →
      Step ⟨.within ⟨status, rule, l :: ls, rows⟩, r, w⟩ (some (World.cancelCall l))
        ⟨.cancelled l c ⟨status, rule, ls, rows⟩, r, w''⟩
  | restart {l c rest r w w' again} : w.restartStep l l.execution.status = (again, w') →
      Step ⟨.cancelled l c rest, r, w⟩ (some (.restart l.execution.id l.execution.status))
        ⟨.restarted l c again rest, r, w'⟩
  | delete {l c again rest r w w' d} : w.deleteStep l = (d, w') →
      Step ⟨.restarted l c again rest, r, w⟩ (some (.delete l.execution.id))
        ⟨.within rest, r.remediated [⟨l.execution.id, l.execution.status, [c, again, d]⟩], w'⟩

/-- Steps one after another, with all the requests that they make. -/
inductive Steps : Point → List Call → Point → Prop
  | refl {p} : Steps p [] p
  | step {p q s call calls} : Step p call q → Steps q calls s → Steps p (call.toList ++ calls) s

theorem Steps.one {p q : Point} {call : Option Call} (h : Step p call q) : Steps p call.toList q := by
  have hs := Steps.step h .refl
  rwa [List.append_nil] at hs

theorem Steps.trans {p q s : Point} {calls calls' : List Call} (h : Steps p calls q)
    (h' : Steps q calls' s) : Steps p (calls ++ calls') s := by
  induction h with
  | refl => exact h'
  | step hp _ ih =>
    rw [List.append_assoc]
    exact .step hp (ih h')

/-! ## The machine does what the cycle does -/

namespace World

theorem reapOne_steps (status : Status) (rule : StalenessRule)
    (rows : List (Status × StalenessRule)) (l : Listed) (ls : List Listed) (r : CycleReport) {w : World}
    (h : w.cancelling = false) :
    ∃ calls, Steps ⟨.within ⟨status, rule, l :: ls, rows⟩, r, w⟩ calls
      ⟨.within ⟨status, rule, ls, rows⟩, (reapOne status rule l r w).1, (reapOne status rule l r w).2⟩ := by
  unfold reapOne
  split
  next f w' hcheck => exact ⟨_, .one (.undecided h hcheck)⟩
  next w' hcheck => exact ⟨_, .step (.cancel h hcheck rfl) (.step (.restart rfl) (.one (.delete rfl)))⟩
  next v w' hv hcheck => exact ⟨_, .one (.spared h hcheck hv)⟩

/-- The turns of the executions of a list lead to the next state. -/
theorem reapListed_steps (status : Status) (rule : StalenessRule)
    (rows : List (Status × StalenessRule)) (ls : List Listed) (r : CycleReport) (w : World) :
    ∃ calls, Steps ⟨.within ⟨status, rule, ls, rows⟩, r, w⟩ calls
      ⟨.between rows, (reapListed status rule ls r w).1, (reapListed status rule ls r w).2⟩ := by
  induction ls generalizing r w with
  | nil => exact ⟨_, .one .next⟩
  | cons l ls ih =>
    unfold reapListed
    by_cases hc : w.cancelling = true
    · rw [if_pos hc]
      exact ⟨_, .one (.cutListed hc)⟩
    · rw [if_neg hc]
      rw [Bool.not_eq_true] at hc
      obtain ⟨calls, hone⟩ := reapOne_steps status rule rows l ls r hc
      obtain ⟨calls', hs⟩ := ih (reapOne status rule l r w).1 (reapOne status rule l r w).2
      exact ⟨_, hone.trans hs⟩

theorem reapStatus_steps (status : Status) (rule : StalenessRule)
    (rows : List (Status × StalenessRule)) (r : CycleReport) {w : World} (h : w.cancelling = false) :
    ∃ calls, Steps ⟨.between ((status, rule) :: rows), r, w⟩ calls
      ⟨.between rows, (reapStatus status rule r w).1, (reapStatus status rule r w).2⟩ := by
  unfold reapStatus
  dsimp only
  split
  next f w' hq => exact ⟨_, .one (.unlisted h hq)⟩
  next ls w' hq =>
    obtain ⟨calls, hs⟩ := reapListed_steps status rule rows ls (r.scan status) w'
    exact ⟨_, .step (.list h hq) hs⟩

/-- The visits to the states lead to the end. -/
theorem reapStatuses_steps (rows : List (Status × StalenessRule)) (r : CycleReport) (w : World) :
    ∃ calls, Steps ⟨.between rows, r, w⟩ calls
      ⟨.between [], (reapStatuses rows r w).1, (reapStatuses rows r w).2⟩ := by
  induction rows generalizing r w with
  | nil => exact ⟨[], .refl⟩
  | cons row rows ih =>
    obtain ⟨status, rule⟩ := row
    unfold reapStatuses
    by_cases hc : w.cancelling = true
    · rw [if_pos hc]
      exact ⟨_, .one (.cutStates hc)⟩
    · rw [if_neg hc]
      rw [Bool.not_eq_true] at hc
      obtain ⟨calls, hone⟩ := reapStatus_steps status rule rows r hc
      obtain ⟨calls', hs⟩ := ih (reapStatus status rule r w).1 (reapStatus status rule r w).2
      exact ⟨_, hone.trans hs⟩

end World

/-! ## There is one way to go -/

theorem Step.deterministic {p q q' : Point} {call call' : Option Call} (h : Step p call q)
    (h' : Step p call' q') : call = call' ∧ q = q' := by
  cases h <;> cases h' <;> simp_all

theorem Step.not_from_end {p q : Point} {call : Option Call} (h : Step p call q) :
    p.stage ≠ .between [] := by
  cases h <;> simp

/-- A run to the end passes through every point that can be reached. -/
theorem Steps.through {p q s : Point} {calls calls' : List Call} (h : Steps p calls q)
    (h' : Steps p calls' s) (hs : s.stage = .between []) :
    ∃ more, Steps q more s ∧ calls' = calls ++ more := by
  induction h generalizing calls' with
  | refl => exact ⟨calls', h', rfl⟩
  | step hp _ ih =>
    cases h' with
    | refl => exact absurd hs hp.not_from_end
    | step hp' h' =>
      -- Both runs take the same first step.
      obtain ⟨rfl, rfl⟩ := hp.deterministic hp'
      obtain ⟨more, hmore, rfl⟩ := ih h'
      exact ⟨more, hmore, by rw [List.append_assoc]⟩

/-- A cycle ends in one way. -/
theorem Steps.end_unique {p q q' : Point} {calls calls' : List Call} (h : Steps p calls q)
    (h' : Steps p calls' q') (hq : q.stage = .between []) (hq' : q'.stage = .between []) :
    calls = calls' ∧ q = q' := by
  obtain ⟨more, hmore, rfl⟩ := h.through h' hq'
  cases hmore with
  | refl => exact ⟨by rw [List.append_nil], rfl⟩
  | step hstep => exact absurd hq hstep.not_from_end

/-! ## What the steps leave alone -/

theorem Step.made {p q : Point} {call : Option Call} (h : Step p call q) :
    p.world.Made call.toList q.world := by
  cases h with
  | cutStates | next | cutListed => exact .refl _
  | unlisted _ hq =>
    exact (World.say_made _ _ _).trans ((World.query_made hq).trans (World.say_made _ _ _))
  | list _ hq => exact (World.say_made _ _ _).trans (World.query_made hq)
  | spared _ hc _ => exact World.check_made hc
  | undecided _ hc => exact (World.check_made hc).trans (World.say_made _ _ _)
  | @cancel _ _ l _ _ _ _ w' _ _ _ hc hstep =>
    have h := w'.cancelStep_made l l.execution.status
    rw [hstep] at h
    exact (World.check_made hc).trans h
  | @restart l _ _ _ w _ _ hstep =>
    have h := w.restartStep_made l l.execution.status
    rwa [hstep] at h
  | @delete l _ _ _ _ w _ _ hstep =>
    have h := w.deleteStep_made l
    rwa [hstep] at h

theorem Steps.made {p q : Point} {calls : List Call} (h : Steps p calls q) :
    p.world.Made calls q.world := by
  induction h with
  | refl => exact .refl _
  | step hp _ ih => exact hp.made.trans ih

end FlowWarden.Reaper
