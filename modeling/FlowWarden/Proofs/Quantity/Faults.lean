import FlowWarden.Proofs.Decimal.Limits
import FlowWarden.Proofs.Quantity.Scaled
/-!
# When scaling stops in the arithmetic

A quantity that can be read and a factor that is valid may still have no scaled amount: a product
may overflow, and a whole amount must not have more than 28 digits. `scaleCpu_faults` and
`scaleMemory_faults` say exactly when: from half a unit below 28 digits and one more on, however
often the product was rounded on the way.
-/

namespace FlowWarden.Quantity

open Decimal (Size Fault magnitude signed precision kept fit tinyExponent maxExponent)

/-- A computation stops in the arithmetic. -/
def Faults {α : Type} (x : Except Failure α) : Prop :=
  ∃ fault, x = .error (.arithmetic fault)

/-! ## Where a computation stops -/

section

variable {α β : Type}

theorem faults_bind {x : Except Failure α} {f : α → Except Failure β} :
    Faults (x >>= f) ↔ Faults x ∨ ∃ a, x = .ok a ∧ Faults (f a) := by
  constructor
  · rintro ⟨fault, h⟩
    rcases bind_eq_error.1 h with hx | ⟨a, hx, hf⟩
    · exact .inl ⟨fault, hx⟩
    · exact .inr ⟨a, hx, fault, hf⟩
  · rintro (⟨fault, hx⟩ | ⟨a, hx, fault, hf⟩)
    · exact ⟨fault, bind_eq_error.2 (.inl hx)⟩
    · exact ⟨fault, bind_eq_error.2 (.inr ⟨a, hx, hf⟩)⟩

/-- What is wrong with a quantity or a factor is no fault of the arithmetic. -/
theorem not_faults_invalid (x : Except Problem α) : ¬ Faults (x.mapError Failure.invalid) := by
  rintro ⟨fault, h⟩
  obtain ⟨p, -, hp⟩ := mapError_eq_error.1 h
  cases hp

end

theorem scaleBase_bind_faults {α : Type} {raw factor : Document} {f : Decimal → Except Failure α} :
    Faults (scaleBase raw factor >>= f) ↔
      ∃ d m, parse raw = .ok d ∧ multiplier factor = .ok m ∧ Faults (product d m >>= f) := by
  unfold scaleBase
  simp only [bind_assoc]
  rw [faults_bind, or_iff_right (not_faults_invalid _)]
  constructor
  · rintro ⟨d, hd, h⟩
    rw [faults_bind, or_iff_right (not_faults_invalid _)] at h
    obtain ⟨m, hm, h⟩ := h
    exact ⟨d, m, mapError_eq_ok.1 hd, mapError_eq_ok.1 hm, h⟩
  · rintro ⟨d, m, hd, hm, h⟩
    refine ⟨d, mapError_eq_ok.2 hd, ?_⟩
    rw [faults_bind]
    exact .inr ⟨m, mapError_eq_ok.2 hm, h⟩

/-- A valid factor is a finite number. -/
theorem multiplier_finite {factor : Document} {m : Decimal} (h : multiplier factor = .ok m) :
    ∃ n c e, m = .finite n c e := by
  unfold multiplier at h
  dsimp only at h
  split at h
  next => cases h
  next d _ =>
    split at h
    next => cases h
    next hfin =>
      split at h
      next => cases h
      next =>
        obtain rfl := Except.ok.inj h
        cases d with
        | finite n c e => exact ⟨n, c, e, rfl⟩
        | infinite => simp [Decimal.isFinite] at hfin
        | nan => simp [Decimal.isFinite] at hfin

/-! ## Whole amounts -/

theorem nearest_finite_faults {n : Bool} {c : Nat} (hc : c < 10 ^ precision) (e : Int) :
    Faults (nearest (.finite n c e)) ↔ magnitude (10 ^ precision) 0 ≤ magnitude c e := by
  rw [← Decimal.nearestNat_eq_none_iff hc]
  unfold nearest Decimal.roundHalfUp
  dsimp only
  cases Decimal.nearestNat c e with
  | none => simp [Faults]
  | some m => simp [Faults]

theorem nearest_infinite_faults (n : Bool) : Faults (nearest (.infinite n)) :=
  ⟨_, rfl⟩

theorem not_nearest_quiet_faults (n : Bool) (p : Nat) : ¬ Faults (nearest (.nan n false p)) := by
  rintro ⟨fault, h⟩
  cases h

/-- A product that is rounded to 28 digits has a nearest integer unless it reaches 28 digits and one
more. -/
theorem fit_nearest_faults (n : Bool) (c : Nat) (e : Int) :
    Faults ((fit n c e).mapError .arithmetic >>= nearest) ↔ magnitude (10 ^ precision) 0 ≤ kept c e := by
  rcases Decimal.fit_cases n c e with ⟨q, f, hfit, hq, -, hkept, -⟩ | ⟨hfit, hover⟩
  · rw [hfit, ← hkept, ← nearest_finite_faults hq]
    rfl
  · rw [hfit, Decimal.bound_eq_zpow]
    have hle : (10 : ℚ) ^ (0 + (precision : Int)) ≤ 10 ^ (maxExponent + 1) :=
      zpow_le_zpow_right₀ (by norm_num) (by decide)
    exact ⟨fun _ => hle.trans hover, fun _ => ⟨_, rfl⟩⟩

/-! ## Amounts that cannot be scaled -/

/-- The amount `d · m`, in units of one `unit`-th, is no number of at most 28 digits. -/
inductive Unscalable (unit : Nat) : Decimal → Decimal → Prop
  | signaling {n p m} : Unscalable unit (.nan n true p) m
  | infinite {n m} : Unscalable unit (.infinite n) m
  | large {d m x y} : d.size? = some ((x : ℚ) : Size) → m.size? = some ((y : ℚ) : Size) →
      (10 : ℚ) ^ precision - 1 / 2 ≤ |x * y * unit| → Unscalable unit d m

theorem unscalable_finite {unit : Nat} {n n' : Bool} {c c' : Nat} {e e' : Int} :
    Unscalable unit (.finite n c e) (.finite n' c' e') ↔
      (10 : ℚ) ^ precision - 1 / 2 ≤ magnitude (c * c') (e + e') * unit := by
  have habs : |signed n (magnitude c e) * signed n' (magnitude c' e') * unit| =
      magnitude (c * c') (e + e') * unit := by
    have hunit : (0 : ℚ) ≤ unit := Nat.cast_nonneg _
    rw [← Decimal.signed_mul, Decimal.magnitude_mul, abs_mul, abs_of_nonneg hunit,
      Decimal.abs_signed (Decimal.magnitude_nonneg _ _)]
  constructor
  · intro h
    cases h with
    | large hx hy hle =>
      obtain rfl := WithBotTop.coe_injective (Option.some.inj hx)
      obtain rfl := WithBotTop.coe_injective (Option.some.inj hy)
      rwa [habs] at hle
  · intro h
    exact .large rfl rfl (by rwa [habs])

theorem not_unscalable_quiet {unit : Nat} {n : Bool} {p : Nat} {m : Decimal} :
    ¬ Unscalable unit (.nan n false p) m := by
  rintro (_ | _ | ⟨hx, -, -⟩)
  cases hx

theorem product_infinite (n : Bool) (m : Bool) (c : Nat) (e : Int) :
    product (.infinite n) (.finite m c e) = .error (.arithmetic .invalidOperation) ∨
      product (.infinite n) (.finite m c e) = .ok (.infinite (n != m)) := by
  have hmul : (Decimal.infinite n).mul (.finite m c e) =
      if c = 0 then .error .invalidOperation else .ok (.infinite (n != m)) := rfl
  rw [product, hmul]
  by_cases hc : c = 0
  · rw [if_pos hc]
    exact .inl rfl
  · rw [if_neg hc]
    exact .inr rfl

/-- Apart from finite numbers the kind of the quantity decides. -/
theorem product_bind_faults {unit : Nat} {f : Decimal → Except Failure Int}
    (hinf : ∀ n, Faults (f (.infinite n))) (hnan : ∀ n p, ¬ Faults (f (.nan n false p)))
    (hfin : ∀ n c e, Faults ((fit n c e).mapError .arithmetic >>= f) ↔
      (10 : ℚ) ^ precision - 1 / 2 ≤ magnitude c e * unit)
    {d m : Decimal} (hm : ∃ n c e, m = .finite n c e) :
    Faults (product d m >>= f) ↔ Unscalable unit d m := by
  obtain ⟨n', c', e', rfl⟩ := hm
  cases d with
  | nan n signaling p =>
    cases signaling with
    | true => exact ⟨fun _ => .signaling, fun _ => ⟨_, rfl⟩⟩
    | false => exact iff_of_false (hnan n (Decimal.fitPayload p)) not_unscalable_quiet
  | infinite n =>
    refine iff_of_true ?_ .infinite
    rcases product_infinite n n' c' e' with h | h
    · rw [h]
      exact ⟨_, rfl⟩
    · rw [h]
      exact hinf (n != n')
  | finite n c e =>
    rw [unscalable_finite]
    exact hfin _ _ _

/-- A quantity in whole base units: its product is rounded once. -/
theorem scaleMemory_faults {raw factor : Document} :
    Faults (scaleMemory raw factor) ↔
      ∃ d m, parse raw = .ok d ∧ multiplier factor = .ok m ∧ Unscalable 1 d m := by
  have hfin (n : Bool) (c : Nat) (e : Int) : Faults ((fit n c e).mapError .arithmetic >>= nearest) ↔
      (10 : ℚ) ^ precision - 1 / 2 ≤ magnitude c e * (1 : Nat) := by
    rw [fit_nearest_faults, Decimal.le_kept_iff (by decide), zpow_zero, mul_one, Nat.cast_one, mul_one]
  refine scaleBase_bind_faults.trans (exists_congr fun d => exists_congr fun m => ?_)
  refine and_congr_right fun _ => and_congr_right fun hm => ?_
  exact product_bind_faults nearest_infinite_faults not_nearest_quiet_faults hfin (multiplier_finite hm)

/-- A thousand times a number that a result holds is exact. -/
theorem kept_thousand {q : Nat} {f : Int} (hq : q < 10 ^ precision) (hf : tinyExponent ≤ f) :
    kept (q * millisPerCore) (f + 0) = magnitude q f * millisPerCore := by
  have hexact : magnitude (q * millisPerCore) (f + 0) = magnitude q f * millisPerCore := by
    rw [← Decimal.magnitude_mul, Decimal.magnitude_natCast]
  have hheld : Decimal.Held (magnitude (q * millisPerCore) (f + 0)) := by
    refine ⟨false, q, f + 3, hq, by omega, ?_⟩
    have hshift := Decimal.magnitude_shift q f 3
    rw [add_zero]
    exact hshift.symm
  rw [(Decimal.rounds_kept _ _).eq_of_held hheld, hexact]

/-- A number of cores in whole millicores: the second product loses nothing. -/
theorem fit_thousand_nearest_faults (n : Bool) (c : Nat) (e : Int) :
    Faults ((fit n c e).mapError .arithmetic >>= fun cores =>
        product cores (.ofInt millisPerCore) >>= nearest) ↔
      (10 : ℚ) ^ precision - 1 / 2 ≤ magnitude c e * millisPerCore := by
  have hmilli : (10 : ℚ) ^ (-3 : Int) = 1 / 1000 := by norm_num
  have hthousand : ((millisPerCore : Nat) : ℚ) = 1000 := by norm_num [millisPerCore]
  have hbound : (10 : ℚ) ^ precision - 1 / 2 ≤ magnitude c e * millisPerCore ↔
      magnitude (10 ^ precision) (-3) ≤ kept c e := by
    rw [Decimal.le_kept_iff (by decide), hmilli, hthousand]
    constructor <;> intro h <;> linarith
  rw [hbound]
  rcases Decimal.fit_cases n c e with ⟨q, f, hfit, hq, hf, hkept, -⟩ | ⟨hfit, hover⟩
  · have hsecond := fit_nearest_faults (n != false) (q * millisPerCore) (f + 0)
    rw [kept_thousand hq hf] at hsecond
    rw [hfit, ← hkept]
    refine Iff.trans hsecond ?_
    rw [Decimal.magnitude_bound, Decimal.magnitude_bound, hmilli, hthousand, zpow_zero]
    constructor <;> intro h <;> linarith
  · rw [hfit, Decimal.bound_eq_zpow]
    have hle : (10 : ℚ) ^ (-3 + (precision : Int)) ≤ 10 ^ (maxExponent + 1) :=
      zpow_le_zpow_right₀ (by norm_num) (by decide)
    exact ⟨fun _ => hle.trans hover, fun _ => ⟨_, rfl⟩⟩

theorem scaleCpu_faults {raw factor : Document} :
    Faults (scaleCpu raw factor) ↔
      ∃ d m, parse raw = .ok d ∧ multiplier factor = .ok m ∧ Unscalable millisPerCore d m := by
  refine scaleBase_bind_faults.trans (exists_congr fun d => exists_congr fun m => ?_)
  refine and_congr_right fun _ => and_congr_right fun hm => ?_
  exact product_bind_faults (fun n => nearest_infinite_faults (n != false))
    (fun n p => not_nearest_quiet_faults n (Decimal.fitPayload p)) fit_thousand_nearest_faults
    (multiplier_finite hm)

end FlowWarden.Quantity
