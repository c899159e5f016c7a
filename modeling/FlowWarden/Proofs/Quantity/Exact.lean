import FlowWarden.Proofs.Decimal.Nearest
import FlowWarden.Proofs.Quantity.Faults
import FlowWarden.Proofs.Quantity.Worth
/-!
# Scaling is exact

Where the quantity and its product with the factor have at most 28 digits, scaling gives the integer
nearest to the exact rational product of what the two texts write, whatever suffix the quantity has
and whatever exponents the numbers have: `scaling_exact`. A factor that stands for no number, or for
one below zero, is refused whatever the quantity is.
-/

namespace FlowWarden.Quantity

open Decimal (Size Representable Nearest magnitude signed precision tinyExponent maxExponent)

variable {raw factor : Document} {x y : ℚ}

/-- A representable product is computed without rounding. -/
theorem scaleBase_exact (hraw : Worth raw x) (hfactor : Stands factor y) (hy : 0 ≤ y)
    (hx : Representable x) (hxy : Representable (x * y)) :
    ∃ n q f, scaleBase raw factor = .ok (.finite n q f) ∧ q < 10 ^ precision ∧ tinyExponent ≤ f ∧
      signed n (magnitude q f) = x * y := by
  obtain ⟨d, hd, hdx⟩ := hraw.parse hx
  obtain ⟨m, hm, hmy⟩ := hfactor.multiplier hy
  obtain ⟨n, q, f, hmul, hq, hf, hvalue⟩ := Decimal.mul_exact hdx hmy hxy
  refine ⟨n, q, f, ?_, hq, hf, hvalue⟩
  have hproduct : product d m = .ok (.finite n q f) := mapError_eq_ok.2 hmul
  rw [scaleBase, hd, hm]
  exact hproduct

/-- A nearest integer of at most 28 digits is found. -/
theorem nearest_of_finite {n : Bool} {q : Nat} {f k : Int} (hq : q < 10 ^ precision)
    (hk : Nearest (signed n (magnitude q f)) k) (hlt : k.natAbs < 10 ^ precision) :
    nearest (.finite n q f) = .ok k :=
  nearest_eq_ok.2 ((Decimal.roundHalfUp_eq_ok_iff hq).2 ⟨hk, hlt⟩)

/-- So it is for a thousand times a number, which loses nothing either. -/
theorem nearest_of_thousand {n : Bool} {q : Nat} {f k : Int} (hq : q < 10 ^ precision)
    (hf : tinyExponent ≤ f) (hk : Nearest (signed n (magnitude q f) * millisPerCore) k)
    (hlt : k.natAbs < 10 ^ precision) :
    (product (.finite n q f) (.ofInt millisPerCore) >>= nearest) = .ok k := by
  have hkept := kept_thousand hq hf
  have hsigned : signed n (magnitude q f) * millisPerCore =
      signed (n != false) (magnitude q f * millisPerCore) := by
    rw [Decimal.signed_mul]
    rfl
  rw [hsigned] at hk
  rcases Decimal.fit_cases (n != false) (q * millisPerCore) (f + 0) with
    ⟨q', f', hfit, hq', -, hvalue, -⟩ | ⟨-, hover⟩
  · rw [hkept] at hvalue
    rw [← hvalue] at hk
    have hproduct : product (.finite n q f) (.ofInt millisPerCore) = .ok (.finite (n != false) q' f') :=
      mapError_eq_ok.2 hfit
    exact bind_eq_ok.2 ⟨_, hproduct, nearest_of_finite hq' hk hlt⟩
  · -- A number that is too large for a result has more than 28 digits before its point.
    have hle : (10 : ℚ) ^ (0 + (precision : Int)) ≤ 10 ^ (maxExponent + 1) :=
      zpow_le_zpow_right₀ (by norm_num) (by decide)
    rw [hkept] at hover
    have hbound := hk.bound_le (by rw [Decimal.bound_eq_zpow]; exact hle.trans hover)
    exact absurd hlt (Nat.not_lt.2 hbound)

theorem scaleBase_refused {d : Decimal} {p : Problem} (hraw : parse raw = .ok d)
    (hfactor : multiplier factor = .error p) : scaleBase raw factor = .error (.invalid p) := by
  rw [scaleBase, hraw, hfactor]
  rfl

/-- Scaling is exact as far as its numbers are representable. -/
structure Exact (raw factor : Document) : Prop where
  /-- Whatever is read as a finite quantity stands for a number. -/
  worth : ∀ d, parse raw = .ok d → d.isFinite = true → ∃ x, Worth raw x
  accepted_iff : (∃ m, multiplier factor = .ok m) ↔ ∃ y, Stands factor y ∧ 0 ≤ y
  /-- A thousand times the product is representable too, unless the result is too large. -/
  cpu : ∀ x y, Worth raw x → Stands factor y → 0 ≤ y → Representable x → Representable (x * y) →
    ∃ n, Nearest (x * y * 1000) n ∧ (n.natAbs < 10 ^ precision → scaleCpu raw factor = .ok n)
  memory : ∀ x y, Worth raw x → Stands factor y → 0 ≤ y → Representable x → Representable (x * y) →
    ∃ n, Nearest (x * y) n ∧ (n.natAbs < 10 ^ precision → scaleMemory raw factor = .ok n)
  refused : ∀ d, parse raw = .ok d → (¬ ∃ y, Stands factor y ∧ 0 ≤ y) →
    ∃ p, Refused factor p ∧ scaleCpu raw factor = .error (.invalid p) ∧
      scaleMemory raw factor = .error (.invalid p)

/-- Scaling gives the integer nearest to the exact product, a half going away from zero. -/
theorem scaling_exact (raw factor : Document) : Exact raw factor where
  worth d hd := exists_worth hd
  accepted_iff := by
    constructor
    · rintro ⟨m, hm⟩
      rcases multiplier_cases factor with ⟨_, y, -, -, hy, hle⟩ | ⟨p, hp, -⟩
      · exact ⟨y, hy, hle⟩
      · rw [hp] at hm
        cases hm
    · rintro ⟨y, hy, hle⟩
      obtain ⟨m, hm, -⟩ := hy.multiplier hle
      exact ⟨m, hm⟩
  cpu x y hraw hfactor hy hx hxy := by
    obtain ⟨n, hn⟩ := Decimal.exists_nearest (x * y * 1000)
    obtain ⟨b, q, f, hbase, hq, hf, hvalue⟩ := scaleBase_exact hraw hfactor hy hx hxy
    refine ⟨n, hn, fun hlt => ?_⟩
    have hthousand : ((millisPerCore : Nat) : ℚ) = 1000 := by norm_num [millisPerCore]
    rw [← hvalue, ← hthousand] at hn
    exact bind_eq_ok.2 ⟨_, hbase, nearest_of_thousand hq hf hn hlt⟩
  memory x y hraw hfactor hy hx hxy := by
    obtain ⟨n, hn⟩ := Decimal.exists_nearest (x * y)
    obtain ⟨b, q, f, hbase, hq, -, hvalue⟩ := scaleBase_exact hraw hfactor hy hx hxy
    refine ⟨n, hn, fun hlt => ?_⟩
    rw [← hvalue] at hn
    exact bind_eq_ok.2 ⟨_, hbase, nearest_of_finite hq hn hlt⟩
  refused d hd hnot := by
    rcases multiplier_cases factor with ⟨_, y, -, -, hy, hle⟩ | ⟨p, hp, hrefused⟩
    · exact absurd ⟨y, hy, hle⟩ hnot
    · have hbase := scaleBase_refused hd hp
      exact ⟨p, hrefused, bind_eq_error.2 (.inl hbase), bind_eq_error.2 (.inl hbase)⟩

/-- A third of a core times one and a half lies half a millicore above 499, and goes up. -/
theorem third_scaled_up :
    (Worth (.text "333m") (333 * (1 / 1000)) ∧ Stands (.decimal (.finite false 15 (-1))) (3 / 2)) ∧
      scaleCpu (.text "333m") (.decimal (.finite false 15 (-1))) = .ok 500 := by
  have htext : quantityText (.text "333m") =
      some (String.ofList (['3', '3', '3'] ++ Suffix.chars (.decimal 'm'))) := rfl
  have hnumber : Decimal.Spells (String.ofList ['3', '3', '3']) 333 :=
    Decimal.spells_iff.2 ⟨.ofInt 333, rfl, Decimal.ofInt_size 333⟩
  have hraw : Worth (.text "333m") (333 * (1 / 1000)) := .written htext hnumber rfl
  have hfactor : Stands (.decimal (.finite false 15 (-1))) (3 / 2) :=
    .decimal (by norm_num [Decimal.size?, magnitude, signed])
  have hx : Representable (333 * (1 / 1000)) :=
    .of_abs_lt_one ⟨false, 333, -3, by decide, by decide, by norm_num [magnitude, signed]⟩
      (by norm_num [abs_lt])
  have hxy : Representable (333 * (1 / 1000) * (3 / 2)) :=
    .of_abs_lt_one ⟨false, 4995, -4, by decide, by decide, by norm_num [magnitude, signed]⟩
      (by norm_num [abs_lt])
  obtain ⟨n, hn, hscale⟩ := (scaling_exact _ _).cpu _ _ hraw hfactor (by norm_num) hx hxy
  have hhalf : Nearest (333 * (1 / 1000) * (3 / 2) * 1000) 500 :=
    .of_halves (by norm_num) (by norm_num) (by norm_num)
  obtain rfl := hn.unique hhalf
  exact ⟨⟨hraw, hfactor⟩, hscale (by decide)⟩

end FlowWarden.Quantity
