import FlowWarden.Proofs.Autoscaler.Foreseen
import FlowWarden.Proofs.Autoscaler.Lookup
/-!
# One request under two policies

While a target is not ready the policy decides between a failure and the maxima. `recommend_policies`
compares the two policies for any request and any cluster: the cluster sees the same requests and
ends up in the same state, and the outcomes are the same except that the one policy fails where the
other gives the maxima. It also says when that is: whenever the autoscaler could be read and has no
target, whatever else is wrong with the request.

The comparison goes from one request of a recommendation to the next, so that it holds as well while
others act on the cluster in between.
-/

namespace FlowWarden.Autoscaler

theorem Resource.exists_iff {p : Resource → Prop} :
    (∃ resource, p resource) ↔ p .cpu ∨ p .memory := by
  constructor
  · rintro ⟨_ | _, h⟩
    · exact .inl h
    · exact .inr h
  · rintro (h | h)
    · exact ⟨.cpu, h⟩
    · exact ⟨.memory, h⟩

namespace Request

/-- The request under the policy to fail. -/
def strict (r : Request) : Request :=
  { r with policy := .fail }

/-- The request under the policy to use the maxima. -/
def lenient (r : Request) : Request :=
  { r with policy := .useMaximum }

/-- The outcomes of one request under the two policies. -/
inductive Parted (r : Request) : Outcome → Outcome → Prop
  | same {o : Outcome} (h : ∀ n, o ≠ .error (.notReady n)) : Parted r o o
  | notReady (n : NotReady) : Parted r (.error (.notReady n)) (.ok r.maximum)

/-- Where one request stands under the two policies. -/
inductive Abreast (r : Request) : Progress → Progress → Prop
  | reading (limits : Decimal × Decimal) : Abreast r (.reading limits) (.reading limits)
  | creating : Abreast r .creating .creating
  | done {o o' : Outcome} (h : r.Parted o o') : Abreast r (.done o) (.done o')

/-- A recommendation that makes a request after each of the things that others do. -/
def inTurns (r : Request) : List (Store → Store) → Progress → Store → Progress × Store
  | [], p, s => (p, s)
  | act :: acts, p, s =>
    let (p, s) := r.advance p (act s)
    r.inTurns acts p s

section

variable {r : Request} {s : Store}

theorem inTurns_cons (r : Request) (act : Store → Store) (acts : List (Store → Store)) (p : Progress)
    (s : Store) : r.inTurns (act :: acts) p s =
      r.inTurns acts (r.advance p (act s)).1 (r.advance p (act s)).2 := rfl

/-! ## The exits that no policy changes -/

theorem maxSizes_ne_notReady {p : Problem} (h : r.maxSizes = .error p) (n : NotReady) :
    p ≠ .notReady n := by
  rintro rfl
  unfold maxSizes at h
  split at h <;> cases h

theorem scaleProblem_ne_notReady (f : Quantity.Failure) (n : NotReady) :
    r.scaleProblem f ≠ .notReady n := by
  cases f <;> simp [scaleProblem]

theorem scaledTargets_ne_notReady {cpu memory : String} {p : Problem}
    (h : r.scaledTargets cpu memory = .error p) (n : NotReady) : p ≠ .notReady n := by
  rcases bind_eq_error.1 h with h | ⟨millicores, -, h⟩
  · obtain ⟨f, -, rfl⟩ := mapError_eq_error.1 h
    exact scaleProblem_ne_notReady f n
  · rcases bind_eq_error.1 h with h | ⟨bytes, -, h⟩
    · obtain ⟨f, -, rfl⟩ := mapError_eq_error.1 h
      exact scaleProblem_ne_notReady f n
    · cases h

/-- Once both targets are found, they are ready. -/
theorem fromTargets_ne_notReady (limits : Decimal × Decimal) (cpu memory : String) (n : NotReady) :
    (r.fromTargets limits cpu memory s).1 ≠ .error (.notReady n) := by
  intro h
  unfold fromTargets at h
  split at h
  next p hp => exact scaledTargets_ne_notReady hp n (Except.error.inj h)
  next =>
    obtain ⟨fault, hfault⟩ := capped_error h
    cases hfault

theorem fromCreation_ne_notReady (n : NotReady) :
    (r.fromCreation s).1 ≠ .error (.notReady n) := by
  unfold fromCreation
  dsimp only
  split <;> simp

/-! ## Step by step -/

theorem fromObject_parted (limits : Decimal × Decimal) (object : Document) :
    r.Parted (r.strict.fromObject limits object s).1 (r.lenient.fromObject limits object s).1 ∧
      (r.lenient.fromObject limits object s).2 = (r.strict.fromObject limits object s).2 := by
  have hstrict : r.strict.targets object = r.targets object := rfl
  have hlenient : r.lenient.targets object = r.targets object := rfl
  unfold fromObject
  rw [hstrict, hlenient]
  rcases r.targets object with (n | m) | ⟨cpu, memory⟩
  · exact ⟨.notReady n, rfl⟩
  · exact ⟨.same fun n => by simp, rfl⟩
  · exact ⟨.same (fromTargets_ne_notReady limits cpu memory), rfl⟩

theorem start_abreast (r : Request) : r.Abreast r.strict.start r.lenient.start := by
  have hstrict : r.strict.start = r.start := rfl
  have hlenient : r.lenient.start = r.start := rfl
  rw [hstrict, hlenient, start]
  cases h : r.maxSizes with
  | error p => exact .done (.same fun n hn => maxSizes_ne_notReady h n (Except.error.inj hn))
  | ok limits => exact .reading limits

/-- Two recommendations that are abreast stay so when each makes its next request, and the cluster
cannot tell the one from the other. -/
theorem Abreast.advance {p p' : Progress} (h : r.Abreast p p') (s : Store) :
    r.Abreast (r.strict.advance p s).1 (r.lenient.advance p' s).1 ∧
      (r.lenient.advance p' s).2 = (r.strict.advance p s).2 := by
  cases h with
  | done h => exact ⟨.done h, rfl⟩
  | creating => exact ⟨.done (.same fromCreation_ne_notReady), rfl⟩
  | reading limits =>
    have hstrict : s.read r.strict.space r.strict.name = s.read r.space r.name := rfl
    have hlenient : s.read r.lenient.space r.lenient.name = s.read r.space r.name := rfl
    dsimp only [Request.advance]
    rw [hstrict, hlenient]
    rcases s.read r.space r.name with ⟨f | _ | object, s₁⟩
    · exact ⟨.done (.same fun n => by simp), rfl⟩
    · exact ⟨.creating, rfl⟩
    · obtain ⟨hparted, hstore⟩ := fromObject_parted (r := r) (s := s₁) limits object
      exact ⟨.done hparted, hstore⟩

/-- Two recommendations that are abreast stay so over any number of requests, whatever others do in
between. -/
theorem Abreast.inTurns (acts : List (Store → Store)) {p p' : Progress} (h : r.Abreast p p')
    (s : Store) :
    r.Abreast (r.strict.inTurns acts p s).1 (r.lenient.inTurns acts p' s).1 ∧
      (r.lenient.inTurns acts p' s).2 = (r.strict.inTurns acts p s).2 := by
  induction acts generalizing p p' s with
  | nil => exact ⟨h, rfl⟩
  | cons act acts ih =>
    -- What others do next, they do to the same state under either policy.
    obtain ⟨hnext, hstore⟩ := h.advance (act s)
    rw [inTurns_cons, inTurns_cons, hstore]
    exact ih hnext _

/-- A whole recommendation is one whose two requests are not parted by anything. -/
theorem recommend_eq_inTurns (r : Request) (s : Store) :
    r.inTurns [id, id] r.start s = (.done (r.recommend s).1, (r.recommend s).2) :=
  r.recommend_eq_advance_advance s

theorem recommend_parted (r : Request) (s : Store) :
    r.Parted (r.strict.recommend s).1 (r.lenient.recommend s).1 ∧
      (r.lenient.recommend s).2 = (r.strict.recommend s).2 := by
  have habreast := (start_abreast r).inTurns [id, id] s
  rw [recommend_eq_inTurns, recommend_eq_inTurns] at habreast
  obtain ⟨hdone, hstore⟩ := habreast
  cases hdone with
  | done hparted => exact ⟨hparted, hstore⟩

/-! ## Failures that a policy decides -/

theorem targets_notReady_iff {object : Document} {n : NotReady} :
    r.targets object = .error (.notReady n) ↔
      target object r.container .cpu = .error (.notReady n) ∨
        (∃ text, target object r.container .cpu = .ok text) ∧
          target object r.container .memory = .error (.notReady n) := by
  unfold targets
  rcases hcpu : target object r.container .cpu with e | cpu
  · simp [bind, Except.bind]
  · rcases hmemory : target object r.container .memory with e | memory <;>
      simp [bind, Except.bind, pure, Except.pure]

theorem fromObject_notReady_iff {limits : Decimal × Decimal} {object : Document} {n : NotReady} :
    (r.strict.fromObject limits object s).1 = .error (.notReady n) ↔
      r.targets object = .error (.notReady n) := by
  have hstrict : r.strict.targets object = r.targets object := rfl
  unfold fromObject
  rw [hstrict]
  rcases r.targets object with (n' | m) | ⟨cpu, memory⟩
  · simp [strict]
  · simp
  · exact iff_of_false (fromTargets_ne_notReady limits cpu memory n) (by simp)

/-- Where every level may be missing, a target is not ready as soon as one resource has no value,
unless something is to be shown that cannot be written. -/
theorem targets_missing_iff {object : Document} (h : Shaped object) :
    (∃ n, r.targets object = .error (.notReady n)) ↔
      (∃ resource, (value? object r.container resource).bind given? = none) ∧
        r.targets object ≠ .error (.malformed .unwritable) := by
  rw [Resource.exists_iff]
  unfold targets
  rcases target_cases h r.container .cpu with ⟨cpu, hcpu, hgiven⟩ | ⟨hcpu, hgiven⟩ | hcpu
  · rw [hcpu, hgiven]
    rcases target_cases h r.container .memory with
      ⟨memory, hmemory, hgiven'⟩ | ⟨hmemory, hgiven'⟩ | hmemory
    · rw [hmemory, hgiven']
      simp [bind, Except.bind, pure, Except.pure]
    · rw [hmemory, hgiven']
      simp [bind, Except.bind]
    · rw [hmemory]
      simp [bind, Except.bind]
  · rw [hcpu, hgiven]
    simp [bind, Except.bind]
  · rw [hcpu]
    simp [bind, Except.bind]

/-- The maxima can be read, and the cluster shows an autoscaler. -/
def Reads (r : Request) (s : Store) (object : Document) : Prop :=
  (∃ d, Quantity.parse r.maxCpu = .ok d) ∧ (∃ d, Quantity.parse r.maxMemory = .ok d) ∧
    (s.read r.space r.name).1 = .ok (some object)

theorem maxSizes_ok_iff : (∃ limits, r.maxSizes = .ok limits) ↔
    (∃ d, Quantity.parse r.maxCpu = .ok d) ∧ ∃ d, Quantity.parse r.maxMemory = .ok d := by
  constructor
  · rintro ⟨limits, h⟩
    obtain ⟨hcpu, hmemory⟩ := maxSizes_eq_ok h
    exact ⟨⟨_, hcpu⟩, _, hmemory⟩
  · rintro ⟨⟨cpu, hcpu⟩, memory, hmemory⟩
    exact ⟨_, maxSizes_of_parse hcpu hmemory⟩

theorem recommend_notReady_iff {n : NotReady} :
    (r.strict.recommend s).1 = .error (.notReady n) ↔
      ∃ object, r.Reads s object ∧ r.targets object = .error (.notReady n) := by
  have hstart : r.strict.start = r.start := rfl
  have hread : s.read r.strict.space r.strict.name = s.read r.space r.name := rfl
  unfold recommend
  rw [hstart, hread, start]
  cases hmax : r.maxSizes with
  | error p =>
    refine iff_of_false (fun h => maxSizes_ne_notReady hmax n (Except.error.inj h)) ?_
    rintro ⟨object, ⟨hcpu, hmemory, -⟩, -⟩
    obtain ⟨limits, hlimits⟩ := maxSizes_ok_iff.2 ⟨hcpu, hmemory⟩
    rw [hmax] at hlimits
    cases hlimits
  | ok limits =>
    obtain ⟨hcpu, hmemory⟩ := maxSizes_ok_iff.1 ⟨limits, hmax⟩
    dsimp only
    -- Only the third answer has targets to look at; the other two are ends of their own.
    rcases hanswer : s.read r.space r.name with ⟨f | _ | object, s₁⟩
    · refine iff_of_false (by simp) ?_
      rintro ⟨object, ⟨-, -, hobject⟩, -⟩
      rw [hanswer] at hobject
      cases hobject
    · refine iff_of_false (fromCreation_ne_notReady n) ?_
      rintro ⟨object, ⟨-, -, hobject⟩, -⟩
      rw [hanswer] at hobject
      cases hobject
    · refine fromObject_notReady_iff.trans ⟨fun h => ⟨object, ⟨hcpu, hmemory, ?_⟩, h⟩, ?_⟩
      · rw [hanswer]
      · rintro ⟨object', ⟨-, -, hobject⟩, h⟩
        rw [hanswer] at hobject
        obtain rfl : object = object' := Option.some.inj (Except.ok.inj hobject)
        exact h

/-! ## The comparison -/

/-- What the policy of a request decides, and what it does not. -/
structure Compared (r : Request) (s : Store) : Prop where
  /-- Of a recommender's policy and that of the call, one holds. -/
  effective : ∀ own call, (r.under own call).recommend s =
    match call.getD own with
    | .fail => r.strict.recommend s
    | .useMaximum => r.lenient.recommend s
  /-- The requests to the cluster are the same, and so is all that they leave behind. -/
  store_eq : (r.lenient.recommend s).2 = (r.strict.recommend s).2
  parted : r.Parted (r.strict.recommend s).1 (r.lenient.recommend s).1
  /-- Others may act on the cluster before each request. -/
  inTurns : ∀ acts,
    r.Abreast (r.strict.inTurns acts r.start s).1 (r.lenient.inTurns acts r.start s).1 ∧
      (r.lenient.inTurns acts r.start s).2 = (r.strict.inTurns acts r.start s).2
  /-- A processor target may be any text if the memory target is not ready. -/
  notReady_iff : ∀ n, (r.strict.recommend s).1 = .error (.notReady n) ↔
    ∃ object, r.Reads s object ∧
      (target object r.container .cpu = .error (.notReady n) ∨
        (∃ text, target object r.container .cpu = .ok text) ∧
          target object r.container .memory = .error (.notReady n))
  /-- An object that cannot be written may fail to be shown instead. -/
  missing_iff : ∀ object, Shaped object → r.Reads s object →
    ((∃ n, (r.strict.recommend s).1 = .error (.notReady n)) ↔
      (∃ resource, (value? object r.container resource).bind given? = none) ∧
        (object.isWritable = true ∨ r.targets object ≠ .error (.malformed .unwritable)))
  /-- No factor is looked at before both targets are there. -/
  factors : ∀ cpuFactor memoryFactor n,
    ({ r with cpuFactor, memoryFactor }.strict.recommend s).1 = .error (.notReady n) ↔
      (r.strict.recommend s).1 = .error (.notReady n)

theorem recommend_missing_iff {object : Document} (h : Shaped object) (hreads : r.Reads s object) :
    (∃ n, (r.strict.recommend s).1 = .error (.notReady n)) ↔
      (∃ resource, (value? object r.container resource).bind given? = none) ∧
        (object.isWritable = true ∨ r.targets object ≠ .error (.malformed .unwritable)) := by
  rw [or_iff_right_of_imp (targets_writable h), ← targets_missing_iff h]
  refine exists_congr fun n => recommend_notReady_iff.trans ⟨?_, fun hn => ⟨object, hreads, hn⟩⟩
  rintro ⟨object', ⟨-, -, hobject'⟩, hn⟩
  obtain ⟨-, -, hobject⟩ := hreads
  obtain rfl : object' = object := Option.some.inj (Except.ok.inj (hobject'.symm.trans hobject))
  exact hn

/-- The two policies differ on targets that are not ready, and on nothing else. -/
theorem recommend_policies (r : Request) (s : Store) : r.Compared s where
  effective := by
    intro own call
    unfold under
    cases call.getD own <;> rfl
  store_eq := (recommend_parted r s).2
  parted := (recommend_parted r s).1
  inTurns := fun acts => (start_abreast r).inTurns acts s
  notReady_iff := by
    intro n
    simp only [recommend_notReady_iff, targets_notReady_iff]
  missing_iff := fun _ hshaped hreads => recommend_missing_iff hshaped hreads
  factors := by
    intro cpuFactor memoryFactor n
    rw [recommend_notReady_iff, recommend_notReady_iff]
    exact Iff.rfl

end

end Request

end FlowWarden.Autoscaler
