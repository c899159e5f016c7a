import FlowWarden.Autoscaler.Recommend
import FlowWarden.Proofs.Quantity.Scaled
import FlowWarden.Proofs.Quantity.Written
/-!
# Recommendations never exceed the maxima

A recommendation that comes from an autoscaler is the scaled target or the maximum, whichever is
less, in each dimension by itself: `recommend_clamped`. Where a thousand times the processor
maximum has more than 28 digits it is compared rounded, and the recommendation may be the maximum
although the target lies just below it; it never lies above.
-/

namespace FlowWarden.Autoscaler

open Decimal (Size Held Rounds precision)

/-- The size of an amount. -/
def amount? (d : Document) : Option Size :=
  (Quantity.parse d).toOption.bind Decimal.size?

/-- A recommended field is the lesser of a scaled amount and a maximum. `exact` says when that is
promised; that it does not exceed the maximum always is. -/
structure Capped (field maximum : Document) (scaled : ℚ) (written : String) (exact : Prop)
    (limit : Size) : Prop where
  limit_eq : amount? maximum = some limit
  amount : ∃ x, amount? field = some x ∧ x ≤ limit ∧ (exact → x = min (scaled : Size) limit)
  /-- A scaled amount that reaches the maximum is replaced by the maximum as it was given. -/
  verbatim : limit ≤ (scaled : Size) → field = maximum
  /-- One that does not reach it is written out. -/
  formatted : exact → (scaled : Size) < limit → field = .text written

theorem amount?_of_parse {d : Document} {x : Decimal} (h : Quantity.parse d = .ok x) :
    amount? d = x.size? := by
  simp [amount?, h, Except.toOption]

/-- The choice between a written amount and the maximum, by a comparison that may be inexact. -/
theorem capped_ite {maximum : Document} {scaled : ℚ} {written : String} {exact : Prop} {limit : Size}
    {below : Bool} (hmax : amount? maximum = some limit)
    (hwritten : amount? (.text written) = some (scaled : Size))
    (hbelow : below = true → (scaled : Size) < limit)
    (hnot : exact → below = false → limit ≤ (scaled : Size)) :
    Capped (if below then .text written else maximum) maximum scaled written exact limit := by
  cases below with
  | true =>
    have hlt := hbelow rfl
    refine ⟨hmax, ⟨scaled, hwritten, le_of_lt hlt, fun _ => ?_⟩, fun hle => ?_, fun _ _ => rfl⟩
    · rw [min_eq_left (le_of_lt hlt)]
    · exact absurd hlt (not_lt_of_ge hle)
  | false =>
    refine ⟨hmax, ⟨limit, hmax, le_rfl, fun hexact => ?_⟩, fun _ => rfl, fun hexact hlt => ?_⟩
    · rw [min_eq_right (hnot hexact rfl)]
    · exact absurd hlt (not_lt_of_ge (hnot hexact rfl))

namespace Request

/-! ## The two comparisons -/

theorem isBelow_eq_ok {n : Int} {limit : Decimal} {b : Bool} (h : isBelow n limit = .ok b) :
    ∃ y, limit.size? = some y ∧ (b = true ↔ ((n : ℚ) : Size) < y) := by
  unfold isBelow at h
  split at h
  next b' hlt =>
    obtain rfl := Except.ok.inj h
    obtain ⟨x, y, hx, hy, hiff⟩ := Decimal.lt?_eq_some hlt
    obtain rfl : ((n : ℚ) : Size) = x := by
      rw [Decimal.ofInt_size] at hx
      exact Option.some.inj hx
    exact ⟨y, hy, hiff⟩
  next => cases h

/-- A thousand times a number: rounded, or still infinite. -/
theorem mul_thousand {d p : Decimal} (h : d.mul (.ofInt Quantity.millisPerCore) = .ok p) {y : Size}
    (hp : p.size? = some y) :
    (∃ x z : ℚ, d.size? = some (x : Size) ∧ y = (z : Size) ∧ Rounds (x * 1000) z) ∨
      d.size? = some y ∧ (y = ⊥ ∨ y = ⊤) := by
  cases d with
  | nan negative signaling =>
    cases signaling with
    | true => cases h
    | false =>
      obtain rfl := Except.ok.inj h
      cases hp
  | infinite negative =>
    right
    obtain rfl := Except.ok.inj h
    obtain rfl := Option.some.inj hp
    cases negative
    · exact ⟨rfl, .inr rfl⟩
    · exact ⟨rfl, .inl rfl⟩
  | finite negative c e =>
    left
    obtain ⟨z, hz, hr⟩ := Decimal.mul_rounds rfl (Decimal.ofInt_size _) h
    rw [hz] at hp
    exact ⟨_, z, rfl, (Option.some.inj hp).symm, hr⟩

/-- The comparison in whole millicores decides as one in cores would, unless a thousand times the
maximum was rounded; then it may take a smaller amount for one that reaches the maximum. -/
theorem lt_of_millis {n : Int} (hn : n.natAbs < 10 ^ precision) {cores p : Decimal} {y : Size}
    (h : cores.mul (.ofInt Quantity.millisPerCore) = .ok p) (hp : p.size? = some y) :
    ∃ limit, cores.size? = some limit ∧
      (((n : ℚ) : Size) < y → ((n / 1000 : ℚ) : Size) < limit) ∧
      ((∀ x : ℚ, limit = (x : Size) → Held (x * 1000)) → ((n / 1000 : ℚ) : Size) < limit →
        ((n : ℚ) : Size) < y) := by
  rcases mul_thousand h hp with ⟨x, z, hx, rfl, hr⟩ | ⟨hy, hinf⟩
  · -- No whole number of millicores lies between the exact product and the rounded one.
    refine ⟨x, hx, fun hlt => ?_, fun hheld hlt => ?_⟩
    · rw [WithBotTop.coe_lt_coe] at hlt ⊢
      have hexact := hr.lt_of_lt (Decimal.held_intCast hn) hlt
      linarith
    · rw [WithBotTop.coe_lt_coe] at hlt ⊢
      rw [hr.eq_of_held (hheld x rfl)]
      linarith
  · refine ⟨y, hy, ?_, fun _ => ?_⟩
    all_goals
      intro hlt
      rcases hinf with rfl | rfl
      · exact absurd hlt not_lt_bot
      · exact Decimal.size_lt_top _

/-- A processor field is capped, exactly if a thousand times the maximum has at most 28 digits. -/
theorem capCpu_capped {r : Request} {n : Int} {cores : Decimal} {field : Document}
    (hn : n.natAbs < 10 ^ precision) (hmax : Quantity.parse r.maxCpu = .ok cores)
    (h : r.capCpu n cores = .ok field) :
    ∃ limit, Capped field r.maxCpu (n / 1000) (Quantity.formatCpu n)
      (∀ x : ℚ, limit = (x : Size) → Held (x * 1000)) limit := by
  obtain ⟨p, hmul, h⟩ := bind_eq_ok.1 h
  obtain ⟨below, hbelow, h⟩ := bind_eq_ok.1 h
  obtain rfl := Except.ok.inj h
  obtain ⟨y, hy, hiff⟩ := isBelow_eq_ok hbelow
  obtain ⟨limit, hlimit, hlt, hexact⟩ := lt_of_millis hn (mapError_eq_ok.1 hmul) hy
  obtain ⟨d, hd, hsize⟩ := Quantity.parse_formatCpu hn
  refine ⟨limit, capped_ite ?_ ?_ (fun hb => hlt (hiff.1 hb)) fun hheld hnot => ?_⟩
  · rw [amount?_of_parse hmax, hlimit]
  · rw [amount?_of_parse hd, hsize]
  · by_contra hge
    rw [hiff.2 (hexact hheld (not_le.1 hge))] at hnot
    cases hnot

theorem capMemory_capped {r : Request} {b : Int} {bytes : Decimal} {field : Document}
    (hb : b.natAbs < 10 ^ precision) (hmax : Quantity.parse r.maxMemory = .ok bytes)
    (h : r.capMemory b bytes = .ok field) :
    ∃ limit, Capped field r.maxMemory b (Quantity.formatMemory b) True limit := by
  obtain ⟨below, hbelow, h⟩ := bind_eq_ok.1 h
  obtain rfl := Except.ok.inj h
  obtain ⟨limit, hlimit, hiff⟩ := isBelow_eq_ok hbelow
  obtain ⟨d, hd, hsize⟩ := Quantity.parse_formatMemory hb
  refine ⟨limit, capped_ite ?_ ?_ hiff.1 fun _ hnot => ?_⟩
  · rw [amount?_of_parse hmax, hlimit]
  · rw [amount?_of_parse hd, hsize]
  · rw [← not_lt, ← hiff, hnot]
    exact Bool.false_ne_true

/-! ## Recommendations from an autoscaler -/

/-- A recommendation was derived from these targets of an autoscaler. -/
structure Derived (r : Request) (s : Store) (cpu memory : String) (rec : Recommendation) : Prop where
  outcome : (r.recommend s).1 = .ok rec
  origin : rec.origin = .recommender
  targets : ∃ object, (s.read r.space r.name).1 = .ok (some object) ∧
    r.targets object = .ok (cpu, memory)

theorem fromCreation_origin {r : Request} {s : Store} {rec : Recommendation}
    (h : (r.fromCreation s).1 = .ok rec) : rec.origin = .maximum := by
  unfold fromCreation at h
  dsimp only at h
  split at h
  next =>
    obtain rfl := Except.ok.inj h
    rfl
  next =>
    obtain rfl := Except.ok.inj h
    rfl
  next => cases h

theorem maxSizes_eq_ok {r : Request} {limits : Decimal × Decimal} (h : r.maxSizes = .ok limits) :
    Quantity.parse r.maxCpu = .ok limits.1 ∧ Quantity.parse r.maxMemory = .ok limits.2 := by
  unfold maxSizes at h
  split at h
  next => cases h
  next => cases h
  next cpu memory hcpu hmemory =>
    obtain rfl := Except.ok.inj h
    exact ⟨hcpu, hmemory⟩

/-- What a recommendation from an autoscaler is made of. -/
structure Made (r : Request) (cpu memory : String) (rec : Recommendation) (n b : Int) : Prop where
  millicores : Quantity.scaleCpu (.text cpu) r.cpuFactor = .ok n
  bytes : Quantity.scaleMemory (.text memory) r.memoryFactor = .ok b
  cpu : ∃ cores, Quantity.parse r.maxCpu = .ok cores ∧ r.capCpu n cores = .ok rec.cpu
  memory : ∃ size, Quantity.parse r.maxMemory = .ok size ∧ r.capMemory b size = .ok rec.memory

theorem made_of_fromTargets {r : Request} {limits : Decimal × Decimal} {cpu memory : String} {s : Store}
    {rec : Recommendation} (hlimits : r.maxSizes = .ok limits)
    (h : (r.fromTargets limits cpu memory s).1 = .ok rec) : ∃ n b, r.Made cpu memory rec n b := by
  obtain ⟨hcores, hsize⟩ := maxSizes_eq_ok hlimits
  unfold fromTargets at h
  split at h
  next => cases h
  next n b hscaled =>
    obtain ⟨n', hn, hscaled⟩ := bind_eq_ok.1 hscaled
    obtain ⟨b', hb, hscaled⟩ := bind_eq_ok.1 hscaled
    obtain ⟨rfl, rfl⟩ : n' = n ∧ b' = b := by simpa using Except.ok.inj hscaled
    obtain ⟨cpuField, hcpu, h⟩ := bind_eq_ok.1 h
    obtain ⟨memoryField, hmemory, h⟩ := bind_eq_ok.1 h
    obtain rfl := Except.ok.inj h
    exact ⟨n', b', mapError_eq_ok.1 hn, mapError_eq_ok.1 hb, ⟨_, hcores, hcpu⟩, ⟨_, hsize, hmemory⟩⟩

/-- A recommendation that names an autoscaler as its origin was derived from its targets. -/
theorem exists_derived {r : Request} {s : Store} {rec : Recommendation}
    (h : (r.recommend s).1 = .ok rec) (ho : rec.origin = .recommender) :
    ∃ cpu memory, r.Derived s cpu memory rec ∧ ∃ n b, r.Made cpu memory rec n b := by
  have houtcome := h
  have hnot : rec.origin ≠ .maximum := by
    rw [ho]
    decide
  unfold recommend at h
  split at h
  next outcome hstart =>
    -- A request that ends before the read has failed.
    unfold start at hstart
    split at hstart
    next => cases hstart
    next =>
      cases hstart
      cases h
  next => exact absurd (fromCreation_origin h) hnot
  next limits hstart =>
    -- Of what can follow the read, only the targets of an object lead to such an origin.
    have hlimits : r.maxSizes = .ok limits := by
      unfold start at hstart
      split at hstart
      next hl =>
        cases hstart
        exact hl
      next => cases hstart
    split at h
    next => cases h
    next => exact absurd (fromCreation_origin h) hnot
    next object s' hread =>
      unfold fromObject at h
      split at h
      next cpu memory htargets =>
        exact ⟨cpu, memory, ⟨houtcome, ho, object, by rw [hread], htargets⟩,
          made_of_fromTargets hlimits h⟩
      next => cases h
      next n hn =>
        dsimp only at h
        split at h
        next =>
          obtain rfl := Except.ok.inj h
          exact absurd rfl hnot
        next => cases h

theorem Derived.made {r : Request} {s : Store} {cpu memory : String} {rec : Recommendation}
    (h : r.Derived s cpu memory rec) : ∃ n b, r.Made cpu memory rec n b := by
  obtain ⟨cpu', memory', h', hmade⟩ := exists_derived h.outcome h.origin
  obtain ⟨object, hread, htargets⟩ := h.targets
  obtain ⟨object', hread', htargets'⟩ := h'.targets
  rw [hread] at hread'
  obtain rfl : object = object' := by simpa using hread'
  rw [htargets] at htargets'
  obtain ⟨rfl, rfl⟩ : cpu = cpu' ∧ memory = memory' := by simpa using htargets'
  exact hmade

/-- A recommendation from an autoscaler keeps within the maxima. -/
structure Clamped (r : Request) (s : Store) (rec : Recommendation) (cpu memory : String) (n b : Int)
    (maxCpu maxMemory : Size) : Prop where
  derived : r.Derived s cpu memory rec
  millicores : Quantity.scaleCpu (.text cpu) r.cpuFactor = .ok n
  bytes : Quantity.scaleMemory (.text memory) r.memoryFactor = .ok b
  /-- The processor amount is exact where a thousand times the maximum needs no rounding. -/
  cpu_capped : Capped rec.cpu r.maxCpu (n / 1000) (Quantity.formatCpu n)
    (∀ x : ℚ, maxCpu = (x : Size) → Held (x * 1000)) maxCpu
  memory_capped : Capped rec.memory r.maxMemory b (Quantity.formatMemory b) True maxMemory
  /-- Each dimension depends on its own target, factor and maximum only. -/
  cpu_alone : ∀ r' s' memory' rec', Derived r' s' cpu memory' rec' → r'.cpuFactor = r.cpuFactor →
    r'.maxCpu = r.maxCpu → rec'.cpu = rec.cpu
  memory_alone : ∀ r' s' cpu' rec', Derived r' s' cpu' memory rec' →
    r'.memoryFactor = r.memoryFactor → r'.maxMemory = r.maxMemory → rec'.memory = rec.memory

/-- Two scaled amounts that agree are capped alike. -/
theorem field_unique {scaled : Except Quantity.Failure Int} {size : Except Quantity.Problem Decimal}
    {cap : Int → Decimal → Except Problem Document} {n n' : Int} {field field' : Document}
    (hn : scaled = .ok n) (hn' : scaled = .ok n') (h : ∃ d, size = .ok d ∧ cap n d = .ok field)
    (h' : ∃ d, size = .ok d ∧ cap n' d = .ok field') : field' = field := by
  obtain rfl : n = n' := Except.ok.inj (hn.symm.trans hn')
  obtain ⟨d, hd, hcap⟩ := h
  obtain ⟨d', hd', hcap'⟩ := h'
  obtain rfl : d = d' := Except.ok.inj (hd.symm.trans hd')
  exact Except.ok.inj (hcap'.symm.trans hcap)

theorem Made.cpu_alone {r r' : Request} {cpu memory memory' : String} {rec rec' : Recommendation}
    {n n' b b' : Int} (h : r.Made cpu memory rec n b) (h' : r'.Made cpu memory' rec' n' b')
    (hfactor : r'.cpuFactor = r.cpuFactor) (hmax : r'.maxCpu = r.maxCpu) : rec'.cpu = rec.cpu := by
  have hn := h'.millicores
  have hfield := h'.cpu
  simp only [capCpu, hfactor, hmax] at hn hfield
  exact field_unique h.millicores hn h.cpu hfield

theorem Made.memory_alone {r r' : Request} {cpu cpu' memory : String} {rec rec' : Recommendation}
    {n n' b b' : Int} (h : r.Made cpu memory rec n b) (h' : r'.Made cpu' memory rec' n' b')
    (hfactor : r'.memoryFactor = r.memoryFactor) (hmax : r'.maxMemory = r.maxMemory) :
    rec'.memory = rec.memory := by
  have hb := h'.bytes
  have hfield := h'.memory
  simp only [capMemory, hfactor, hmax] at hb hfield
  exact field_unique h.bytes hb h.memory hfield

/-- A recommendation from an autoscaler is clamped to the maxima, each dimension by itself. -/
theorem recommend_clamped {r : Request} {s : Store} {rec : Recommendation}
    (h : (r.recommend s).1 = .ok rec) (ho : rec.origin = .recommender) :
    ∃ cpu memory n b maxCpu maxMemory, r.Clamped s rec cpu memory n b maxCpu maxMemory := by
  obtain ⟨cpu, memory, hderived, n, b, hmade⟩ := exists_derived h ho
  obtain ⟨cores, hcores, hcpu⟩ := hmade.cpu
  obtain ⟨size, hsize, hmemory⟩ := hmade.memory
  obtain ⟨maxCpu, hcappedCpu⟩ := capCpu_capped (Quantity.scaleCpu_lt hmade.millicores) hcores hcpu
  obtain ⟨maxMemory, hcappedMemory⟩ := capMemory_capped (Quantity.scaleMemory_lt hmade.bytes) hsize hmemory
  refine ⟨cpu, memory, n, b, maxCpu, maxMemory, ?_⟩
  exact {
    derived := hderived
    millicores := hmade.millicores
    bytes := hmade.bytes
    cpu_capped := hcappedCpu
    memory_capped := hcappedMemory
    cpu_alone := by
      intro r' s' memory' rec' h' hfactor hmax
      obtain ⟨n', b', hmade'⟩ := h'.made
      exact hmade.cpu_alone hmade' hfactor hmax
    memory_alone := by
      intro r' s' cpu' rec' h' hfactor hmax
      obtain ⟨n', b', hmade'⟩ := h'.made
      exact hmade.memory_alone hmade' hfactor hmax }

/-! ## One amount below its maximum and one above -/

/-- A flow with factors of one and a half for the processor and of three for the memory. -/
def headroom : Request where
  space := "default"
  labelName := "flow-vpa"
  name := "daily"
  container := "flow"
  cpuFactor := .decimal (.finite false 15 (-1))
  memoryFactor := .int 3
  maxCpu := .text "2000m"
  maxMemory := .text "2Gi"
  policy := .fail
  now := { clock := 0, offset := none }

/-- Its autoscaler, which has observed half a core and one gibibyte. -/
def observed : Document :=
  .record [("status", .record [("recommendation", .record [("containerRecommendations",
    .list [.record [("containerName", .text "flow"),
      ("target", .record [("cpu", .text "500m"), ("memory", .text "1Gi")])]])])])]

theorem headroom_scaledTargets : headroom.scaledTargets "500m" "1Gi" = .ok (750, 3221225472) := by
  have hcpu : Quantity.scaleCpu (.text "500m") headroom.cpuFactor = .ok 750 := by decide +kernel
  have hmemory : Quantity.scaleMemory (.text "1Gi") headroom.memoryFactor = .ok 3221225472 := by
    decide +kernel
  unfold scaledTargets
  rw [hcpu, hmemory]
  rfl

theorem headroom_start :
    headroom.start = .reading (.finite false 2000 (-3), .finite false 2147483648 0) := by
  have hcpu : Quantity.parse headroom.maxCpu = .ok (.finite false 2000 (-3)) := by decide +kernel
  have hmemory : Quantity.parse headroom.maxMemory = .ok (.finite false 2147483648 0) := by
    decide +kernel
  unfold start maxSizes
  rw [hcpu, hmemory]

theorem headroom_recommend :
    (headroom.recommend { objects := [("default/daily", observed)] }).1 =
      .ok ⟨.text "750m", .text "2Gi", .recommender⟩ := by
  have hread : Store.read headroom.space headroom.name { objects := [("default/daily", observed)] } =
      (.ok (some observed), { objects := [("default/daily", observed)], calls := [.get "default" "daily"] }) :=
    rfl
  have htargets : headroom.targets observed = .ok ("500m", "1Gi") := rfl
  unfold recommend
  rw [headroom_start]
  dsimp only
  rw [hread]
  dsimp only
  unfold fromObject
  rw [htargets]
  dsimp only
  unfold fromTargets
  rw [headroom_scaledTargets]
  rfl

/-- The processor amount is the scaled target, and the memory amount is the maximum. -/
theorem headroom_clamped :
    (headroom.recommend { objects := [("default/daily", observed)] }).1 =
        .ok ⟨.text "750m", .text "2Gi", .recommender⟩ ∧
      ∃ cpu memory n b maxCpu maxMemory,
        headroom.Clamped { objects := [("default/daily", observed)] }
          ⟨.text "750m", .text "2Gi", .recommender⟩ cpu memory n b maxCpu maxMemory :=
  ⟨headroom_recommend, recommend_clamped headroom_recommend rfl⟩

end Request

end FlowWarden.Autoscaler
