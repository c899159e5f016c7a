import FlowWarden.Proofs.Autoscaler.Lookup
import FlowWarden.Proofs.Quantity.Faults
/-!
# Which failures escape

A recommendation is to end with amounts or with a failure that its callers know: the target is not
ready, a maximum or a target cannot be read as a quantity, or the cluster refuses. For an
autoscaler of the documented shape nothing else happens outside the arithmetic, and
`recommend_foreseen` says exactly which targets and maxima the arithmetic cannot take. Only an
object that cannot be written, which no cluster sends, may fail to be shown as well.
-/

namespace FlowWarden.Autoscaler

open Decimal (Size precision maxExponent)
open Quantity (Unscalable millisPerCore)

/-! ## Autoscalers of the documented shape -/

/-- A level of an object: a map that may be missing or null. -/
def Level : Option Document → Prop
  | none | some .null | some (.map _) => True
  | some _ => False

/-- The recommendation for one container. -/
structure DocumentedEntry (d : Document) : Prop where
  isMap : ∃ es, d = .map es
  target : Level (d.get? "target")

/-- The recommendations for the containers, which may be missing or null. -/
def Entries : Option Document → Prop
  | none | some .null => True
  | some (.list ds) => ∀ d ∈ ds, DocumentedEntry d
  | some _ => False

/-- An object with maps and lists where they belong. The values in them may be anything. -/
structure Documented (object : Document) : Prop where
  isMap : ∃ es, object = .map es
  metadata : Level (object.get? "metadata")
  status : Level (object.get? "status")
  recommendation : Level ((object.get? "status").bind (Document.get? "recommendation"))
  entries : Entries (((object.get? "status").bind (Document.get? "recommendation")).bind
    (Document.get? "containerRecommendations"))

theorem Level.isPart {d : Option Document} (h : Level d) : IsPart d := by
  rintro v rfl
  cases v with
  | null => exact .inl rfl
  | map es => exact .inr ⟨es, rfl⟩
  | _ => exact False.elim h

theorem Entries.isListing {d : Option Document} (h : Entries d) : IsListing d := by
  rintro v rfl
  cases v with
  | null => exact .inl rfl
  | list ds => exact .inr ⟨ds, rfl⟩
  | _ => exact False.elim h

/-- The documented shape is one that the lookup can read. -/
theorem Documented.shaped {object : Document} (h : Documented object) : Shaped object where
  isMap := h.isMap
  metadata := h.metadata.isPart
  status := h.status.isPart
  recommendation := by
    rw [Document.at?_two]
    exact h.recommendation.isPart
  list := by
    rw [Document.at?_three, Document.at?_two]
    exact h.entries.isListing
  entries := by
    intro d hd
    have hentries := h.entries
    rw [← Document.at?_two, ← Document.at?_three] at hentries
    unfold listing at hd
    split at hd
    next ds hlist =>
      rw [hlist] at hentries
      exact ⟨(hentries d hd).isMap, (hentries d hd).target.isPart⟩
    next => cases hd

/-- A lookup ends with a value, finds no target yet, or has something to show that cannot be written;
it does not meet a level of another kind. -/
def Settled {α : Type} (x : Except LookupFailure α) : Prop :=
  (∃ a, x = .ok a) ∨ (∃ n, x = .error (.notReady n)) ∨ x = .error (.malformed .unwritable)

theorem Settled.bind {α β : Type} {x : Except LookupFailure α} {f : α → Except LookupFailure β}
    (hx : Settled x) (hf : ∀ a, x = .ok a → Settled (f a)) : Settled (x >>= f) := by
  rcases hx with ⟨a, rfl⟩ | ⟨n, rfl⟩ | rfl
  · exact hf a rfl
  · exact .inr (.inl ⟨n, rfl⟩)
  · exact .inr (.inr rfl)

theorem target_settled {object : Document} (h : Documented object) (container : String)
    (resource : Resource) : Settled (target object container resource) := by
  rcases target_cases h.shaped container resource with ⟨text, hok, -⟩ | ⟨hnone, -⟩ | hunwritable
  · exact .inl ⟨text, hok⟩
  · exact .inr (.inl ⟨_, hnone⟩)
  · exact .inr (.inr hunwritable)

namespace Request

theorem targets_settled (r : Request) {object : Document} (h : Documented object) :
    Settled (r.targets object) :=
  (target_settled h r.container .cpu).bind fun _ _ =>
    (target_settled h r.container .memory).bind fun _ _ => .inl ⟨_, rfl⟩

/-! ## What callers foresee -/

/-- What callers know how to deal with. A target that is not ready is a failure only to those who
want to hear of it. -/
def Foreseen (r : Request) : Outcome → Prop
  | .ok _ => True
  | .error (.notReady _) => r.policy = .fail
  | .error (.invalidMaximum ..) | .error (.unreadable ..) | .error (.notCreated ..) => True
  | .error (.invalidTarget ..) => True
  | .error (.arithmetic _) | .error (.malformed _) => False

/-- A maximum in cores that no whole number of millicores can be compared with: it is not a number,
or a thousand times it overflows. -/
def Incomparable (cores : Decimal) : Prop :=
  cores.size? = none ∨ ∃ x : ℚ, cores.size? = some (x : Size) ∧
    ((10 : ℚ) ^ precision - 1 / 2) * 10 ^ (maxExponent + 1 - precision) ≤ |x * millisPerCore|

/-- A target times its factor has no whole amount of at most 28 digits. -/
def NoAmount (unit : Nat) (target : String) (factor : Document) : Prop :=
  ∃ d m, Quantity.parse (.text target) = .ok d ∧ Quantity.multiplier factor = .ok m ∧ Unscalable unit d m

/-- The arithmetic on these targets has no result, at the first of the four places that comes to
that: either amount, then either comparison. -/
def Strained (r : Request) (limits : Decimal × Decimal) (cpu memory : String) : Prop :=
  NoAmount millisPerCore cpu r.cpuFactor ∨
    (∃ n, Quantity.scaleCpu (.text cpu) r.cpuFactor = .ok n) ∧
      (NoAmount 1 memory r.memoryFactor ∨
        (∃ b, Quantity.scaleMemory (.text memory) r.memoryFactor = .ok b) ∧
          (Incomparable limits.1 ∨ limits.2.size? = none))

/-! ## The comparisons -/

theorem isBelow_ok_iff {n : Int} {limit : Decimal} :
    (∃ b, isBelow n limit = .ok b) ↔ limit.size? ≠ none := by
  cases limit with
  | nan => simp [isBelow, Decimal.lt?, Decimal.ofInt, Decimal.size?]
  | infinite => exact ⟨fun _ => by simp [Decimal.size?], fun _ => ⟨_, rfl⟩⟩
  | finite => exact ⟨fun _ => by simp [Decimal.size?], fun _ => ⟨_, rfl⟩⟩

theorem capMemory_ok_iff {r : Request} {b : Int} {bytes : Decimal} :
    (∃ d, r.capMemory b bytes = .ok d) ↔ bytes.size? ≠ none := by
  rw [← isBelow_ok_iff (n := b)]
  constructor
  · rintro ⟨d, hd⟩
    obtain ⟨below, hbelow, -⟩ := bind_eq_ok.1 hd
    exact ⟨below, hbelow⟩
  · rintro ⟨below, hbelow⟩
    exact ⟨_, bind_eq_ok.2 ⟨below, hbelow, rfl⟩⟩

/-- A thousand times a finite maximum is a number unless it overflows. -/
theorem incomparable_finite {n : Bool} {c : Nat} {e : Int} :
    Incomparable (.finite n c e) ↔
      10 ^ (maxExponent + 1) ≤ Decimal.kept (c * millisPerCore) (e + 0) := by
  have habs : |Decimal.signed n (Decimal.magnitude c e) * millisPerCore| =
      Decimal.magnitude (c * millisPerCore) (e + 0) := by
    have hthousand : (0 : ℚ) ≤ millisPerCore := Nat.cast_nonneg _
    rw [abs_mul, abs_of_nonneg hthousand, Decimal.abs_signed (Decimal.magnitude_nonneg _ _),
      ← Decimal.magnitude_mul, Decimal.magnitude_natCast]
  have hbound := Decimal.le_kept_iff (f := maxExponent + 1 - precision) (by decide)
    (c * millisPerCore) (e + 0)
  rw [Decimal.bound_eq_zpow, Int.sub_add_cancel] at hbound
  rw [hbound, ← habs]
  constructor
  · rintro (h | ⟨x, hx, hle⟩)
    · cases h
    · obtain rfl := WithBotTop.coe_injective (Option.some.inj hx)
      exact hle
  · intro hle
    exact .inr ⟨_, rfl, hle⟩

theorem not_incomparable_infinite (n : Bool) : ¬ Incomparable (.infinite n) := by
  rintro (h | ⟨x, h, -⟩)
  · cases h
  · obtain ⟨_, _, _, heq, -⟩ := Decimal.size?_eq_coe h
    cases heq

/-- A thousand times a maximum is a number where the maximum can be compared. -/
theorem mul_thousand_ok_iff {cores : Decimal} :
    (∃ p, cores.mul (.ofInt millisPerCore) = .ok p ∧ p.size? ≠ none) ↔ ¬ Incomparable cores := by
  cases cores with
  | nan n signaling p =>
    refine iff_of_false ?_ (not_not_intro (.inl rfl))
    rintro ⟨q, hq, hsize⟩
    cases signaling with
    | true => cases hq
    | false =>
      obtain rfl := Except.ok.inj hq
      exact hsize rfl
  | infinite n =>
    exact iff_of_true ⟨_, rfl, by simp [Decimal.size?]⟩ (not_incomparable_infinite n)
  | finite n c e =>
    have hmul : (Decimal.finite n c e).mul (.ofInt millisPerCore) =
        Decimal.fit (n != false) (c * millisPerCore) (e + 0) := rfl
    rw [hmul, incomparable_finite, not_le]
    rcases Decimal.fit_cases (n != false) (c * millisPerCore) (e + 0) with
      ⟨q, f, hfit, -, -, -, hlt⟩ | ⟨hfit, hover⟩
    · exact iff_of_true ⟨_, hfit, by simp [Decimal.size?]⟩ hlt
    · refine iff_of_false ?_ (not_lt_of_ge hover)
      rintro ⟨p, hp, -⟩
      rw [hfit] at hp
      cases hp

theorem capCpu_ok_iff {r : Request} {n : Int} {cores : Decimal} :
    (∃ d, r.capCpu n cores = .ok d) ↔ ¬ Incomparable cores := by
  rw [← mul_thousand_ok_iff]
  constructor
  · rintro ⟨d, hd⟩
    obtain ⟨p, hp, hd⟩ := bind_eq_ok.1 hd
    obtain ⟨below, hbelow, -⟩ := bind_eq_ok.1 hd
    exact ⟨p, mapError_eq_ok.1 hp, isBelow_ok_iff.1 ⟨below, hbelow⟩⟩
  · rintro ⟨p, hp, hsize⟩
    obtain ⟨below, hbelow⟩ := isBelow_ok_iff.2 hsize
    exact ⟨_, bind_eq_ok.2 ⟨p, mapError_eq_ok.2 hp, bind_eq_ok.2 ⟨below, hbelow, rfl⟩⟩⟩

/-! A comparison that has no answer is a fault of the arithmetic. -/

theorem isBelow_error {n : Int} {limit : Decimal} {p : Problem} (h : isBelow n limit = .error p) :
    ∃ fault, p = .arithmetic fault := by
  unfold isBelow at h
  split at h
  · cases h
  · exact ⟨_, (Except.error.inj h).symm⟩

theorem capMemory_error {r : Request} {b : Int} {bytes : Decimal} {p : Problem}
    (h : r.capMemory b bytes = .error p) : ∃ fault, p = .arithmetic fault := by
  rcases bind_eq_error.1 h with h | ⟨below, -, h⟩
  · exact isBelow_error h
  · cases h

theorem capCpu_error {r : Request} {n : Int} {cores : Decimal} {p : Problem}
    (h : r.capCpu n cores = .error p) : ∃ fault, p = .arithmetic fault := by
  rcases bind_eq_error.1 h with h | ⟨limit, -, h⟩
  · obtain ⟨fault, -, hp⟩ := mapError_eq_error.1 h
    exact ⟨fault, hp.symm⟩
  · rcases bind_eq_error.1 h with h | ⟨below, -, h⟩
    · exact isBelow_error h
    · cases h

theorem capped_error {r : Request} {n b : Int} {limits : Decimal × Decimal} {p : Problem}
    (h : r.capped n b limits = .error p) : ∃ fault, p = .arithmetic fault := by
  rcases bind_eq_error.1 h with h | ⟨cpu, -, h⟩
  · exact capCpu_error h
  · rcases bind_eq_error.1 h with h | ⟨memory, -, h⟩
    · exact capMemory_error h
    · cases h

theorem capped_foreseen {r : Request} {n b : Int} {limits : Decimal × Decimal} :
    r.Foreseen (r.capped n b limits) ↔ ¬ (Incomparable limits.1 ∨ limits.2.size? = none) := by
  have hok : (∃ rec, r.capped n b limits = .ok rec) ↔
      ¬ (Incomparable limits.1 ∨ limits.2.size? = none) := by
    rw [not_or, ← capCpu_ok_iff (r := r) (n := n), ← Ne, ← capMemory_ok_iff (r := r) (b := b)]
    constructor
    · rintro ⟨rec, h⟩
      obtain ⟨cpu, hcpu, h⟩ := bind_eq_ok.1 h
      obtain ⟨memory, hmemory, -⟩ := bind_eq_ok.1 h
      exact ⟨⟨cpu, hcpu⟩, memory, hmemory⟩
    · rintro ⟨⟨cpu, hcpu⟩, memory, hmemory⟩
      exact ⟨_, bind_eq_ok.2 ⟨cpu, hcpu, bind_eq_ok.2 ⟨memory, hmemory, rfl⟩⟩⟩
  rw [← hok]
  cases hc : r.capped n b limits with
  | ok rec => exact iff_of_true trivial ⟨rec, rfl⟩
  | error p =>
    obtain ⟨fault, rfl⟩ := capped_error hc
    exact iff_of_false (fun h => h) (by simp)

/-! ## The recommendation -/

/-- A target that cannot be scaled is told apart by whether it is wrong. -/
theorem scaleProblem_foreseen {r : Request} (f : Quantity.Failure) :
    r.Foreseen (.error (r.scaleProblem f)) ↔ ¬ ∃ fault, f = .arithmetic fault := by
  cases f with
  | invalid p => exact iff_of_true trivial (by simp)
  | arithmetic fault => exact iff_of_false (fun h => h) (by simp)

theorem fromTargets_foreseen {r : Request} {limits : Decimal × Decimal} {cpu memory : String}
    {s : Store} :
    r.Foreseen (r.fromTargets limits cpu memory s).1 ↔ ¬ r.Strained limits cpu memory := by
  unfold fromTargets Strained scaledTargets NoAmount
  rw [← Quantity.scaleCpu_faults, ← Quantity.scaleMemory_faults]
  cases Quantity.scaleCpu (.text cpu) r.cpuFactor with
  | error f =>
    refine (scaleProblem_foreseen f).trans ?_
    simp [Quantity.Faults]
  | ok n =>
    cases Quantity.scaleMemory (.text memory) r.memoryFactor with
    | error f =>
      refine (scaleProblem_foreseen f).trans ?_
      simp [Quantity.Faults]
    | ok b =>
      refine capped_foreseen.trans ?_
      simp [Quantity.Faults]

theorem fromObject_foreseen {r : Request} {limits : Decimal × Decimal} {object : Document}
    (h : Documented object) (s : Store) :
    r.Foreseen (r.fromObject limits object s).1 ↔
      (¬ ∃ cpu memory, r.targets object = .ok (cpu, memory) ∧ r.Strained limits cpu memory) ∧
        r.targets object ≠ .error (.malformed .unwritable) := by
  unfold fromObject
  rcases r.targets_settled h with ⟨⟨cpu, memory⟩, htargets⟩ | ⟨n, htargets⟩ | htargets
  · rw [htargets, and_iff_left (by simp)]
    refine fromTargets_foreseen.trans (not_congr ?_)
    constructor
    · intro hs
      exact ⟨cpu, memory, rfl, hs⟩
    · rintro ⟨cpu', memory', heq, hs⟩
      obtain ⟨rfl, rfl⟩ : cpu = cpu' ∧ memory = memory' := by simpa using Except.ok.inj heq
      exact hs
  · rw [htargets]
    refine iff_of_true ?_ (by simp)
    dsimp only
    cases hp : r.policy with
    | fail => exact hp
    | useMaximum => trivial
  · rw [htargets]
    exact iff_of_false (fun h => h) (fun h => h.2 rfl)

/-- Whatever the cluster answers to a creation is foreseen. -/
theorem fromCreation_foreseen (r : Request) (s : Store) : r.Foreseen (r.fromCreation s).1 := by
  unfold fromCreation
  dsimp only
  split <;> trivial

/-- The autoscaler that the cluster has is there to be read, and the arithmetic on its targets has
no result. -/
def StrainedBy (r : Request) (s : Store) : Prop :=
  ∃ limits object cpu memory, r.maxSizes = .ok limits ∧
    (s.read r.space r.name).1 = .ok (some object) ∧ r.targets object = .ok (cpu, memory) ∧
      r.Strained limits cpu memory

/-- The autoscaler that the cluster has is there to be read, and what is to be shown of it cannot be
written. -/
def Unshown (r : Request) (s : Store) : Prop :=
  ∃ limits object, r.maxSizes = .ok limits ∧ (s.read r.space r.name).1 = .ok (some object) ∧
    r.targets object = .error (.malformed .unwritable)

theorem targets_writable {r : Request} {object : Document} (h : Shaped object)
    (hwritable : object.isWritable = true) :
    r.targets object ≠ .error (.malformed .unwritable) := by
  intro hunwritable
  rcases bind_eq_error.1 hunwritable with hcpu | ⟨cpu, -, hunwritable⟩
  · exact target_writable h hwritable hcpu
  · rcases bind_eq_error.1 hunwritable with hmemory | ⟨memory, -, hok⟩
    · exact target_writable h hwritable hmemory
    · cases hok

theorem maxSizes_foreseen {r : Request} {p : Problem} (h : r.maxSizes = .error p) :
    r.Foreseen (.error p) := by
  unfold maxSizes at h
  split at h
  · cases h
    trivial
  · cases h
    trivial
  · cases h

/-- An object that can be written can be shown. -/
theorem not_unshown {r : Request} {s : Store}
    (hdoc : ∀ object, (s.read r.space r.name).1 = .ok (some object) → Documented object)
    (hwritable : ∀ object, (s.read r.space r.name).1 = .ok (some object) →
      object.isWritable = true) : ¬ r.Unshown s := by
  rintro ⟨limits, object, -, hread, hunwritable⟩
  exact targets_writable (hdoc object hread).shaped (hwritable object hread) hunwritable

/-- What comes of a recommendation whose first request meets the store `s` and whose second one, if
there is one, meets any other. -/
theorem advance_foreseen {r : Request} {s : Store}
    (hdoc : ∀ object, (s.read r.space r.name).1 = .ok (some object) → Documented object) (s' : Store) :
    ∃ outcome, (r.advance (r.advance r.start s).1 s').1 = .done outcome ∧
      (r.Foreseen outcome ↔ ¬ r.StrainedBy s ∧ ¬ r.Unshown s) := by
  unfold StrainedBy Unshown start
  cases hl : r.maxSizes with
  | error p => exact ⟨.error p, rfl, iff_of_true (maxSizes_foreseen hl) (by simp)⟩
  | ok limits =>
    dsimp only [advance]
    rcases hread : s.read r.space r.name with ⟨answer, s₁⟩
    rw [hread] at hdoc
    cases answer with
    | error f => exact ⟨_, rfl, iff_of_true trivial (by simp)⟩
    | ok found =>
      cases found with
      | none => exact ⟨_, rfl, iff_of_true (fromCreation_foreseen r s') (by simp)⟩
      | some object =>
        refine ⟨_, rfl, (fromObject_foreseen (hdoc object rfl) s₁).trans ?_⟩
        simp

/-- A recommendation ends as its callers foresee, whatever the cluster does, except where the
arithmetic on the targets has no result, and except on an object that could not have been sent. -/
theorem recommend_foreseen {r : Request} {s : Store}
    (hdoc : ∀ object, (s.read r.space r.name).1 = .ok (some object) → Documented object) :
    (r.Foreseen (r.recommend s).1 ↔ ¬ r.StrainedBy s ∧ ¬ r.Unshown s) ∧
      (∀ s', ∃ outcome, (r.advance (r.advance r.start s).1 s').1 = .done outcome ∧
        (r.Foreseen outcome ↔ ¬ r.StrainedBy s ∧ ¬ r.Unshown s)) ∧
      ((∀ object, (s.read r.space r.name).1 = .ok (some object) → object.isWritable = true) →
        ¬ r.Unshown s) := by
  refine ⟨?_, advance_foreseen hdoc, not_unshown hdoc⟩
  obtain ⟨outcome, hdone, hforeseen⟩ := advance_foreseen hdoc (r.advance r.start s).2
  have hwhole := congrArg Prod.fst (r.recommend_eq_advance_advance s)
  dsimp only at hwhole
  rw [hwhole] at hdone
  obtain rfl := Progress.done.inj hdone
  exact hforeseen

/-! ## A target that is too large -/

/-- An autoscaler with these targets. -/
def reporting (cpu memory : String) : Document :=
  .record [("status", .record [("recommendation", .record [("containerRecommendations",
    .list [.record [("containerName", .text "flow"),
      ("target", .record [("cpu", .text cpu), ("memory", .text memory)])]])])])]

theorem reporting_documented (cpu memory : String) : Documented (reporting cpu memory) where
  isMap := ⟨_, rfl⟩
  metadata := trivial
  status := trivial
  recommendation := trivial
  entries := by
    intro d hd
    obtain rfl := List.mem_singleton.1 hd
    exact ⟨⟨_, rfl⟩, trivial⟩

/-- A cluster with one autoscaler. -/
def holding (object : Document) : Store :=
  { objects := [("default/daily", object)] }

theorem holding_reporting (cpu memory : String) (object : Document)
    (h : ((holding (reporting cpu memory)).read headroom.space headroom.name).1 = .ok (some object)) :
    Documented object ∧ object.isWritable = true := by
  obtain rfl : reporting cpu memory = object := Option.some.inj (Except.ok.inj h)
  exact ⟨reporting_documented cpu memory, rfl⟩

/-- A target of ten to the thirtieth bytes is more than 28 digits can count. -/
theorem headroom_overtaxed :
    (headroom.recommend (holding (reporting "500m" "1e30"))).1 =
      .error (.arithmetic .invalidOperation) := by
  have hread : (holding (reporting "500m" "1e30")).read headroom.space headroom.name =
      (.ok (some (reporting "500m" "1e30")),
        { holding (reporting "500m" "1e30") with calls := [.get "default" "daily"] }) := rfl
  have htargets : headroom.targets (reporting "500m" "1e30") = .ok ("500m", "1e30") := rfl
  have hcpu : Quantity.scaleCpu (.text "500m") headroom.cpuFactor = .ok 750 := by decide +kernel
  have hmemory : Quantity.scaleMemory (.text "1e30") headroom.memoryFactor =
      .error (.arithmetic .invalidOperation) := by decide +kernel
  have hscaled : headroom.scaledTargets "500m" "1e30" = .error (.arithmetic .invalidOperation) := by
    unfold scaledTargets
    rw [hcpu, hmemory]
    rfl
  unfold recommend
  rw [headroom_start]
  dsimp only
  rw [hread]
  dsimp only
  unfold fromObject
  rw [htargets]
  dsimp only
  unfold fromTargets
  rw [hscaled]

/-- The autoscaler has the documented shape, and the failure is none that callers foresee. -/
theorem headroom_unforeseen :
    Documented (reporting "500m" "1e30") ∧
      ¬ headroom.Foreseen (headroom.recommend (holding (reporting "500m" "1e30"))).1 := by
  refine ⟨reporting_documented _ _, ?_⟩
  rw [headroom_overtaxed]
  exact fun h => h

/-- With modest targets the arithmetic has a result, and with immodest ones it has none. -/
theorem headroom_foreseen :
    ¬ headroom.StrainedBy (holding (reporting "500m" "1Gi")) ∧
      headroom.StrainedBy (holding (reporting "500m" "1e30")) := by
  have hdoc (cpu memory : String) (object : Document) (h) :=
    (holding_reporting cpu memory object h).1
  have hmodest := (recommend_foreseen (hdoc "500m" "1Gi")).1
  obtain ⟨hlarge, -, hshown⟩ := recommend_foreseen (hdoc "500m" "1e30")
  constructor
  · have hok : (headroom.recommend (holding (reporting "500m" "1Gi"))).1 =
        .ok ⟨.text "750m", .text "2Gi", .recommender⟩ := headroom_recommend
    rw [hok] at hmodest
    exact (hmodest.1 trivial).1
  · rw [headroom_overtaxed] at hlarge
    by_contra hnot
    exact hlarge.2 ⟨hnot, hshown fun object h => (holding_reporting _ _ object h).2⟩

end Request

end FlowWarden.Autoscaler
