import FlowWarden.Proofs.Decimal.Monotone
import FlowWarden.Proofs.Quantity.Scaled
import FlowWarden.Proofs.Quantity.Worth
/-!
# A larger factor scales no less

A quantity that is not below zero is not scaled to less by a larger factor, and it can be scaled by
every factor that is smaller than one it can be scaled by: `scaleCpu_growing`, `scaleMemory_growing`.
Nothing is assumed about how many digits the numbers have.
-/

namespace FlowWarden.Quantity

open Decimal (Size Unsigned)

variable {raw f f' : Document} {y y' : ℚ}

/-- A quantity that does not stand for a number below zero. -/
def NonNegative (raw : Document) : Prop :=
  ∀ d (x : ℚ), parse raw = .ok d → d.size? = some (x : Size) → 0 ≤ x

/-- Where a factor can be used, a smaller one can be too, and it gives no more. -/
def Growing (scale : Document → Except Failure Int) : Prop :=
  ∀ f f' y y' n', Stands f y → Stands f' y' → 0 ≤ y → y ≤ y' → scale f' = .ok n' →
    ∃ n, scale f = .ok n ∧ 0 ≤ n ∧ n ≤ n'

theorem Growing.le {scale : Document → Except Failure Int} {n n' : Int} (h : Growing scale)
    (hf : Stands f y) (hf' : Stands f' y') (hy : 0 ≤ y) (hle : y ≤ y') (hn : scale f = .ok n)
    (hn' : scale f' = .ok n') : n ≤ n' := by
  obtain ⟨m, hm, -, hmn⟩ := h f f' y y' n' hf hf' hy hle hn'
  obtain rfl := Except.ok.inj (hm.symm.trans hn)
  exact hmn

theorem isFinite_of_nearest {d : Decimal} {n : Int} (h : nearest d = .ok n) : d.isFinite = true := by
  obtain ⟨x, hx, -⟩ := Decimal.nearest_of_roundHalfUp (nearest_eq_ok.1 h)
  exact Decimal.isFinite_iff.2 ⟨x, hx⟩

theorem nearest_mono {p p' : Decimal} {z z' : ℚ} {n' : Int} (hp : Unsigned p z) (hp' : Unsigned p' z')
    (hle : z ≤ z') (h : nearest p' = .ok n') : ∃ n, nearest p = .ok n ∧ 0 ≤ n ∧ n ≤ n' := by
  obtain ⟨n, hn, hbounds⟩ := Decimal.roundHalfUp_mono hp hp' hle (nearest_eq_ok.1 h)
  exact ⟨n, nearest_eq_ok.2 hn, hbounds⟩

theorem scaleBase_mono {p' : Decimal} (hraw : NonNegative raw) (hf : Stands f y) (hf' : Stands f' y')
    (hy : 0 ≤ y) (hle : y ≤ y') (h : scaleBase raw f' = .ok p') (hp' : p'.isFinite = true) :
    ∃ p z z', scaleBase raw f = .ok p ∧ Unsigned p z ∧ Unsigned p' z' ∧ z ≤ z' := by
  obtain ⟨d, hd, h⟩ := bind_eq_ok.1 h
  obtain ⟨g', hg', h⟩ := bind_eq_ok.1 h
  obtain ⟨m, hm, hmy⟩ := hf.multiplier hy
  obtain ⟨m', hm', hmy'⟩ := hf'.multiplier (hy.trans hle)
  obtain rfl := Except.ok.inj (hm'.symm.trans (mapError_eq_ok.1 hg'))
  have hmul : d.mul m' = .ok p' := mapError_eq_ok.1 h
  obtain ⟨x, hx⟩ := Decimal.isFinite_iff.1
    (Decimal.isFinite_of_mul hmul (Decimal.isFinite_iff.2 ⟨y', hmy'⟩) hp')
  have hnonneg := hraw d x (mapError_eq_ok.1 hd) hx
  obtain ⟨p, z, z', hp, hz, hz', hzle⟩ := Decimal.mul_mono hx hx hmy hmy' (mul_nonneg hnonneg hy)
    (mul_le_mul_of_nonneg_left hle hnonneg) hmul
  refine ⟨p, z, z', ?_, hz, hz', hzle⟩
  exact bind_eq_ok.2 ⟨d, hd, bind_eq_ok.2 ⟨m, mapError_eq_ok.2 hm, mapError_eq_ok.2 hp⟩⟩

/-- A factor that something was scaled by is not below zero. -/
theorem Stands.nonneg_of_scaled {p : Decimal} (h : Stands f y) (hscaled : scaleBase raw f = .ok p) :
    0 ≤ y := by
  obtain ⟨d, -, hscaled⟩ := bind_eq_ok.1 hscaled
  obtain ⟨m, hm, -⟩ := bind_eq_ok.1 hscaled
  rcases multiplier_cases f with ⟨_, y', -, -, hy', hnonneg⟩ | ⟨q, hq, -⟩
  · rwa [h.unique hy']
  · rw [mapError_eq_ok, hq] at hm
    cases hm

theorem scaleMemory_growing (hraw : NonNegative raw) : Growing (scaleMemory raw) := by
  intro f f' y y' n' hf hf' hy hle h
  obtain ⟨p', hbase', h⟩ := bind_eq_ok.1 h
  obtain ⟨p, z, z', hbase, hz, hz', hzle⟩ :=
    scaleBase_mono hraw hf hf' hy hle hbase' (isFinite_of_nearest h)
  obtain ⟨n, hn, hbounds⟩ := nearest_mono hz hz' hzle h
  exact ⟨n, bind_eq_ok.2 ⟨p, hbase, hn⟩, hbounds⟩

theorem scaleCpu_growing (hraw : NonNegative raw) : Growing (scaleCpu raw) := by
  intro f f' y y' n' hf hf' hy hle h
  obtain ⟨p', hbase', h⟩ := bind_eq_ok.1 h
  obtain ⟨t', hmillis', h⟩ := bind_eq_ok.1 h
  have hmul' : p'.mul (.ofInt millisPerCore) = .ok t' := mapError_eq_ok.1 hmillis'
  obtain ⟨p, z, z', hbase, hz, hz', hzle⟩ :=
    scaleBase_mono hraw hf hf' hy hle hbase' (Decimal.isFinite_of_mul hmul' rfl (isFinite_of_nearest h))
  have hthousand : (0 : ℚ) ≤ ((millisPerCore : Int) : ℚ) := by norm_num [millisPerCore]
  obtain ⟨t, w, w', hmul, hw, hw', hwle⟩ := Decimal.mul_mono hz.size hz'.size
    (Decimal.ofInt_size millisPerCore) (Decimal.ofInt_size millisPerCore) (mul_nonneg hz.nonneg hthousand)
    (mul_le_mul_of_nonneg_right hzle hthousand) hmul'
  obtain ⟨n, hn, hbounds⟩ := nearest_mono hw hw' hwle h
  exact ⟨n, bind_eq_ok.2 ⟨p, hbase, bind_eq_ok.2 ⟨t, mapError_eq_ok.2 hmul, hn⟩⟩, hbounds⟩

end FlowWarden.Quantity
