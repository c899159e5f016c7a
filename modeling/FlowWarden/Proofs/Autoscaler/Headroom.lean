import FlowWarden.Proofs.Autoscaler.Clamping
import FlowWarden.Proofs.Quantity.Growth
/-!
# More headroom never gives less

Of two recommendations from the same targets and under the same maxima, the one with the larger
factors asks for no less, in either dimension: `recommend_growing`. Both may be written out, both may
be the maximum, and a smaller one may be written out where the larger one is the maximum; the other
way round is impossible, although the comparison with the maximum is rounded.
-/

namespace FlowWarden.Autoscaler

open Decimal (Size precision)
open Quantity (NonNegative Growing Stands)

/-- One field asks for no more than another. -/
def AtMost (field field' : Document) : Prop :=
  ∃ x x', amount? field = some x ∧ amount? field' = some x' ∧ x ≤ x'

/-- A choice between a written amount and the maximum, made for a smaller and for a larger amount. -/
theorem atMost_ite {maximum : Document} {written written' : String} {below below' : Bool} {x x' limit : Size}
    (hmax : amount? maximum = some limit) (hx : amount? (.text written) = some x)
    (hx' : amount? (.text written') = some x') (hle : x ≤ x') (hbelow : below = true → x ≤ limit)
    (hmono : below' = true → below = true) :
    AtMost (if below then .text written else maximum) (if below' then .text written' else maximum) := by
  cases below' with
  | true =>
    rw [hmono rfl]
    exact ⟨x, x', hx, hx', hle⟩
  | false =>
    cases below with
    | true => exact ⟨x, limit, hx, hmax, hbelow rfl⟩
    | false => exact ⟨limit, limit, hmax, hmax, le_rfl⟩

namespace Request

/-! ## The two fields -/

/-- What lies below a limit does so with everything smaller. -/
theorem isBelow_anti {n n' : Int} {limit : Decimal} {below below' : Bool}
    (h : isBelow n limit = .ok below) (h' : isBelow n' limit = .ok below') (hle : n ≤ n') :
    below' = true → below = true := by
  obtain ⟨y, hy, hiff⟩ := isBelow_eq_ok h
  obtain ⟨y', hy', hiff'⟩ := isBelow_eq_ok h'
  obtain rfl := Option.some.inj (hy.symm.trans hy')
  rw [hiff, hiff']
  have hcast : ((n : ℚ) : Size) ≤ ((n' : ℚ) : Size) := by
    rw [WithBotTop.coe_le_coe]
    exact_mod_cast hle
  exact hcast.trans_lt

theorem capCpu_atMost {r r' : Request} {n n' : Int} {cores : Decimal} {field field' : Document}
    (hn : n.natAbs < 10 ^ precision) (hn' : n'.natAbs < 10 ^ precision) (hle : n ≤ n')
    (hmax : Quantity.parse r.maxCpu = .ok cores) (hsame : r'.maxCpu = r.maxCpu)
    (h : r.capCpu n cores = .ok field) (h' : r'.capCpu n' cores = .ok field') : AtMost field field' := by
  obtain ⟨p, hmul, h⟩ := bind_eq_ok.1 h
  obtain ⟨below, hbelow, h⟩ := bind_eq_ok.1 h
  obtain rfl := Except.ok.inj h
  obtain ⟨p', hmul', h'⟩ := bind_eq_ok.1 h'
  obtain ⟨below', hbelow', h'⟩ := bind_eq_ok.1 h'
  obtain rfl := Except.ok.inj h'
  obtain rfl := Except.ok.inj (hmul.symm.trans hmul')
  obtain ⟨y, hy, hiff⟩ := isBelow_eq_ok hbelow
  obtain ⟨limit, hlimit, hlt, -⟩ := lt_of_millis hn (mapError_eq_ok.1 hmul) hy
  obtain ⟨d, hd, hsize⟩ := Quantity.parse_formatCpu hn
  obtain ⟨d', hd', hsize'⟩ := Quantity.parse_formatCpu hn'
  have hcast : ((n / 1000 : ℚ) : Size) ≤ ((n' / 1000 : ℚ) : Size) := by
    rw [WithBotTop.coe_le_coe]
    have hq : (n : ℚ) ≤ n' := by exact_mod_cast hle
    linarith
  rw [hsame]
  exact atMost_ite ((amount?_of_parse hmax).trans hlimit) ((amount?_of_parse hd).trans hsize)
    ((amount?_of_parse hd').trans hsize') hcast (fun hb => le_of_lt (hlt (hiff.1 hb)))
    (isBelow_anti hbelow hbelow' hle)

theorem capMemory_atMost {r r' : Request} {b b' : Int} {bytes : Decimal} {field field' : Document}
    (hb : b.natAbs < 10 ^ precision) (hb' : b'.natAbs < 10 ^ precision) (hle : b ≤ b')
    (hmax : Quantity.parse r.maxMemory = .ok bytes) (hsame : r'.maxMemory = r.maxMemory)
    (h : r.capMemory b bytes = .ok field) (h' : r'.capMemory b' bytes = .ok field') :
    AtMost field field' := by
  obtain ⟨below, hbelow, h⟩ := bind_eq_ok.1 h
  obtain rfl := Except.ok.inj h
  obtain ⟨below', hbelow', h'⟩ := bind_eq_ok.1 h'
  obtain rfl := Except.ok.inj h'
  obtain ⟨limit, hlimit, hiff⟩ := isBelow_eq_ok hbelow
  obtain ⟨d, hd, hsize⟩ := Quantity.parse_formatMemory hb
  obtain ⟨d', hd', hsize'⟩ := Quantity.parse_formatMemory hb'
  have hcast : ((b : ℚ) : Size) ≤ ((b' : ℚ) : Size) := by
    rw [WithBotTop.coe_le_coe]
    exact_mod_cast hle
  rw [hsame]
  exact atMost_ite ((amount?_of_parse hmax).trans hlimit) ((amount?_of_parse hd).trans hsize)
    ((amount?_of_parse hd').trans hsize') hcast (fun hb => le_of_lt (hiff.1 hb))
    (isBelow_anti hbelow hbelow' hle)

/-! ## Two requests with one object -/

/-- The second factor is the larger one, or they are equal. -/
def NoLarger (factor factor' : Document) : Prop :=
  ∃ y y', Stands factor y ∧ Stands factor' y' ∧ y ≤ y'

/-- The second request differs from the first in no smaller factors, as far as it matters. Both find
the same object, whose targets are not below zero. -/
structure Widened (object : Document) (r r' : Request) (s s' : Store) : Prop where
  read : (s.read r.space r.name).1 = .ok (some object)
  read' : (s'.read r'.space r'.name).1 = .ok (some object)
  container : r'.container = r.container
  maxCpu : r'.maxCpu = r.maxCpu
  maxMemory : r'.maxMemory = r.maxMemory
  cpuFactor : NoLarger r.cpuFactor r'.cpuFactor
  memoryFactor : NoLarger r.memoryFactor r'.memoryFactor
  targets : ∀ cpu memory, r.targets object = .ok (cpu, memory) →
    NonNegative (.text cpu) ∧ NonNegative (.text memory)

theorem Derived.targets_eq {r : Request} {s : Store} {cpu memory : String} {rec : Recommendation}
    {object : Document} (h : r.Derived s cpu memory rec)
    (hread : (s.read r.space r.name).1 = .ok (some object)) : r.targets object = .ok (cpu, memory) := by
  obtain ⟨object', hread', htargets⟩ := h.targets
  obtain rfl : object = object' := by simpa using hread.symm.trans hread'
  exact htargets

/-- Two amounts that were scaled by such factors, capped at the same maximum. -/
theorem field_atMost {scale : Document → Except Quantity.Failure Int}
    {size : Except Quantity.Problem Decimal} {cap cap' : Int → Decimal → Except Problem Document}
    {factor factor' field field' : Document} {n n' : Int} (hgrowing : Growing scale)
    (hfactor : NoLarger factor factor') (hnonneg : ∀ y, Stands factor y → 0 ≤ y)
    (hn : scale factor = .ok n) (hn' : scale factor' = .ok n') (h : ∃ d, size = .ok d ∧ cap n d = .ok field)
    (h' : ∃ d, size = .ok d ∧ cap' n' d = .ok field')
    (hcap : ∀ d, n ≤ n' → size = .ok d → cap n d = .ok field → cap' n' d = .ok field' →
      AtMost field field') : AtMost field field' := by
  obtain ⟨y, y', hy, hy', hle⟩ := hfactor
  obtain ⟨d, hd, hfield⟩ := h
  obtain ⟨d', hd', hfield'⟩ := h'
  obtain rfl := Except.ok.inj (hd.symm.trans hd')
  exact hcap d (hgrowing.le hy hy' (hnonneg y hy) hle hn hn') hd hfield hfield'

theorem Widened.atMost {object : Document} {r r' : Request} {s s' : Store} {rec rec' : Recommendation}
    (hw : Widened object r r' s s') (h : (r.recommend s).1 = .ok rec) (ho : rec.origin = .recommender)
    (h' : (r'.recommend s').1 = .ok rec') (ho' : rec'.origin = .recommender) :
    AtMost rec.cpu rec'.cpu ∧ AtMost rec.memory rec'.memory := by
  obtain ⟨cpu, memory, hderived, n, b, hmade⟩ := exists_derived h ho
  obtain ⟨cpu', memory', hderived', n', b', hmade'⟩ := exists_derived h' ho'
  have htargets := hderived.targets_eq hw.read
  have htargets' : r.targets object = .ok (cpu', memory') := by
    have heq := hderived'.targets_eq hw.read'
    rwa [Request.targets, hw.container] at heq
  obtain ⟨rfl, rfl⟩ : cpu = cpu' ∧ memory = memory' := by simpa using htargets.symm.trans htargets'
  obtain ⟨hcpu, hmemory⟩ := hw.targets cpu memory htargets
  constructor
  · obtain ⟨p, hp, -⟩ := bind_eq_ok.1 hmade.millicores
    have hmax := hmade'.cpu
    rw [hw.maxCpu] at hmax
    refine field_atMost (Quantity.scaleCpu_growing hcpu) hw.cpuFactor (fun y hy => hy.nonneg_of_scaled hp)
      hmade.millicores hmade'.millicores hmade.cpu hmax fun cores hle hcores => ?_
    exact capCpu_atMost (Quantity.scaleCpu_lt hmade.millicores) (Quantity.scaleCpu_lt hmade'.millicores)
      hle hcores hw.maxCpu
  · obtain ⟨p, hp, -⟩ := bind_eq_ok.1 hmade.bytes
    have hmax := hmade'.memory
    rw [hw.maxMemory] at hmax
    refine field_atMost (Quantity.scaleMemory_growing hmemory) hw.memoryFactor
      (fun y hy => hy.nonneg_of_scaled hp) hmade.bytes hmade'.bytes hmade.memory hmax
      fun bytes hle hbytes => ?_
    exact capMemory_atMost (Quantity.scaleMemory_lt hmade.bytes) (Quantity.scaleMemory_lt hmade'.bytes)
      hle hbytes hw.maxMemory

/-- More headroom never gives less: a larger factor neither scales a quantity to less nor lets a
recommendation ask for less. -/
theorem recommend_growing :
    (∀ raw, NonNegative raw → Growing (Quantity.scaleCpu raw) ∧ Growing (Quantity.scaleMemory raw)) ∧
      ∀ object r r' s s' rec rec', Widened object r r' s s' → (r.recommend s).1 = .ok rec →
        rec.origin = .recommender → (r'.recommend s').1 = .ok rec' → rec'.origin = .recommender →
        AtMost rec.cpu rec'.cpu ∧ AtMost rec.memory rec'.memory :=
  ⟨fun _ hraw => ⟨Quantity.scaleCpu_growing hraw, Quantity.scaleMemory_growing hraw⟩,
    fun _ _ _ _ _ _ _ hw h ho h' ho' => hw.atMost h ho h' ho'⟩

/-! ## A request with a larger factor -/

/-- The flow with a factor of two for the processor. -/
def roomier : Request :=
  { headroom with cpuFactor := .int 2 }

theorem roomier_millicores : Quantity.scaleCpu (.text "500m") roomier.cpuFactor = .ok 1000 := by
  decide +kernel

theorem roomier_recommend :
    (roomier.recommend { objects := [("default/daily", observed)] }).1 =
      .ok ⟨.text "1", .text "2Gi", .recommender⟩ := by
  have hread : Store.read roomier.space roomier.name { objects := [("default/daily", observed)] } =
      (.ok (some observed), { objects := [("default/daily", observed)], calls := [.get "default" "daily"] }) :=
    rfl
  have htargets : roomier.targets observed = .ok ("500m", "1Gi") := rfl
  have hstart : roomier.start = .reading (.finite false 2000 (-3), .finite false 2147483648 0) :=
    headroom_start
  have hscaled : roomier.scaledTargets "500m" "1Gi" = .ok (1000, 3221225472) := by
    have hmemory : Quantity.scaleMemory (.text "1Gi") roomier.memoryFactor = .ok 3221225472 := by
      decide +kernel
    unfold scaledTargets
    rw [roomier_millicores, hmemory]
    rfl
  unfold recommend
  rw [hstart]
  dsimp only
  rw [hread]
  dsimp only
  unfold fromObject
  rw [htargets]
  dsimp only
  unfold fromTargets
  rw [hscaled]
  rfl

theorem nonNegative_of_parse {raw : Document} {n : Nat} {e : Int}
    (h : Quantity.parse raw = .ok (.finite false n e)) : NonNegative raw := by
  intro d x hd hx
  obtain rfl := Except.ok.inj (h.symm.trans hd)
  obtain rfl := WithBotTop.coe_injective (Option.some.inj hx)
  exact Decimal.magnitude_nonneg n e

theorem stands_ofInt {n : Int} (h : Decimal.read? (Document.int n).display = some (.ofInt n)) :
    Stands (.int n) n :=
  .shown (fun d => by simp) (Decimal.spells_iff.2 ⟨.ofInt n, h, Decimal.ofInt_size n⟩)

theorem headroom_stands : Stands headroom.cpuFactor (3 / 2) :=
  .decimal (by norm_num [Decimal.size?, Decimal.magnitude, Decimal.signed])

theorem roomier_stands : Stands roomier.cpuFactor (2 : Int) :=
  stands_ofInt (by decide +kernel)

theorem roomier_widened : Widened observed headroom roomier { objects := [("default/daily", observed)] }
    { objects := [("default/daily", observed)] } where
  read := rfl
  read' := rfl
  container := rfl
  maxCpu := rfl
  maxMemory := rfl
  cpuFactor := ⟨_, _, headroom_stands, roomier_stands, by norm_num⟩
  memoryFactor := by
    have hthree : Stands headroom.memoryFactor (3 : Int) := stands_ofInt (by decide +kernel)
    exact ⟨_, _, hthree, hthree, le_rfl⟩
  targets := by
    intro cpu memory h
    have htargets : headroom.targets observed = .ok ("500m", "1Gi") := rfl
    obtain ⟨rfl, rfl⟩ : "500m" = cpu ∧ "1Gi" = memory := by simpa using htargets.symm.trans h
    have hcpu : Quantity.parse (.text "500m") = .ok (.finite false 500 (-3)) := by decide +kernel
    have hmemory : Quantity.parse (.text "1Gi") = .ok (.finite false 1073741824 0) := by decide +kernel
    exact ⟨nonNegative_of_parse hcpu, nonNegative_of_parse hmemory⟩

/-- With a factor of two the flow gets a whole core, with one and a half three quarters of one. -/
theorem roomier_growing :
    (NonNegative (.text "500m") ∧
        Widened observed headroom roomier { objects := [("default/daily", observed)] }
          { objects := [("default/daily", observed)] }) ∧
      (∃ n, Quantity.scaleCpu (.text "500m") headroom.cpuFactor = .ok n ∧ 0 ≤ n ∧ n ≤ 1000) ∧
      AtMost (.text "750m") (.text "1") ∧ AtMost (.text "2Gi") (.text "2Gi") := by
  have hnonneg := (roomier_widened.targets "500m" "1Gi" rfl).1
  have hscale := (recommend_growing.1 _ hnonneg).1 _ _ _ _ _ headroom_stands roomier_stands (by norm_num)
    (by norm_num) roomier_millicores
  exact ⟨⟨hnonneg, roomier_widened⟩, hscale,
    recommend_growing.2 _ _ _ _ _ _ _ roomier_widened headroom_recommend rfl roomier_recommend rfl⟩

end Request

end FlowWarden.Autoscaler
