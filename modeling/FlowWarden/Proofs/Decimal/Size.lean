import FlowWarden.Decimal.Basic
import Mathlib.Algebra.Order.Field.Power
import Mathlib.Algebra.Order.Field.Rat
import Mathlib.Data.Nat.Prime.Basic
import Mathlib.Order.WithBotTop
import Mathlib.Tactic.FieldSimp
import Mathlib.Tactic.Linarith
import Mathlib.Tactic.Positivity
import Mathlib.Tactic.Ring
/-!
# The size of a decimal number

A decimal number that is one has a `Size`: a rational number, or an infinity. The comparison of
decimal numbers compares their sizes exactly: `lt?_eq_some`.
-/

namespace FlowWarden.Decimal

/-- A rational number or an infinity. -/
abbrev Size := WithBotTop ℚ

/-- The number `c · 10 ^ e`. -/
def magnitude (c : Nat) (e : Int) : ℚ :=
  c * 10 ^ e

/-- A number with a sign. -/
def signed (negative : Bool) (x : ℚ) : ℚ :=
  if negative then -x else x

/-- The size of a number. What is not a number has none. -/
def size? : Decimal → Option Size
  | .finite negative c e => some ((signed negative (magnitude c e) : ℚ) : Size)
  | .infinite negative => some (if negative then ⊥ else ⊤)
  | .nan .. => none

/-! ## Magnitudes -/

theorem magnitude_nonneg (c : Nat) (e : Int) : 0 ≤ magnitude c e := by
  unfold magnitude
  positivity

@[simp] theorem magnitude_zero (e : Int) : magnitude 0 e = 0 := by
  simp [magnitude]

@[simp] theorem magnitude_eq_zero {c : Nat} {e : Int} : magnitude c e = 0 ↔ c = 0 := by
  have he : (10 : ℚ) ^ e ≠ 0 := by positivity
  simp [magnitude, he]

theorem magnitude_pos {c : Nat} (h : c ≠ 0) (e : Int) : 0 < magnitude c e :=
  lt_of_le_of_ne (magnitude_nonneg c e) fun h0 => h (magnitude_eq_zero.1 h0.symm)

theorem magnitude_natCast (c : Nat) : magnitude c 0 = c := by
  simp [magnitude]

/-- A magnitude in units of a smaller power of ten. -/
theorem magnitude_shift (c : Nat) (e : Int) (k : Nat) : magnitude c (e + k) = magnitude (c * 10 ^ k) e := by
  have hten : (10 : ℚ) ≠ 0 := by norm_num
  unfold magnitude
  rw [zpow_add₀ hten, zpow_natCast]
  push_cast
  ring

theorem magnitude_of_le {e f : Int} (h : e ≤ f) (c : Nat) :
    magnitude c f = magnitude (c * 10 ^ (f - e).toNat) e := by
  have hf : e + ((f - e).toNat : Int) = f := by omega
  rw [← magnitude_shift, hf]

theorem magnitude_mul (c c' : Nat) (e e' : Int) :
    magnitude c e * magnitude c' e' = magnitude (c * c') (e + e') := by
  have hten : (10 : ℚ) ≠ 0 := by norm_num
  unfold magnitude
  rw [zpow_add₀ hten]
  push_cast
  ring

/-- A sign and a magnitude make an integer again. -/
theorem signed_natAbs (n : Int) (x : ℚ) : signed (decide (n < 0)) (n.natAbs * x) = n * x := by
  rw [signed, Nat.cast_natAbs]
  rcases lt_or_ge n 0 with hn | hn
  · simp [hn, abs_of_neg hn]
  · simp [not_lt.2 hn, abs_of_nonneg hn]

/-- Magnitudes in the same units compare like their coefficients. -/
theorem magnitude_lt_iff {c c' : Nat} {e : Int} : magnitude c e < magnitude c' e ↔ c < c' := by
  have he : (0 : ℚ) < 10 ^ e := by positivity
  unfold magnitude
  rw [mul_lt_mul_iff_left₀ he, Nat.cast_lt]

theorem magnitude_le_iff {c c' : Nat} {e : Int} : magnitude c e ≤ magnitude c' e ↔ c ≤ c' := by
  rw [← not_lt, magnitude_lt_iff, not_lt]

/-! ## Digits -/

theorem digits_pos (n : Nat) : 0 < digits n :=
  Nat.length_toDigits_pos

theorem digits_le_iff {n k : Nat} (hk : 0 < k) : digits n ≤ k ↔ n < 10 ^ k :=
  Nat.length_toDigits_le_iff (by omega) hk

theorem lt_pow_digits (n : Nat) : n < 10 ^ digits n :=
  (digits_le_iff (digits_pos n)).1 (Nat.le_refl _)

theorem pow_digits_le {n : Nat} (hn : n ≠ 0) : 10 ^ (digits n - 1) ≤ n := by
  rcases Nat.eq_zero_or_pos (digits n - 1) with h | h
  · rw [h]
    omega
  · by_contra hlt
    have hd := digits_pos n
    have hle := (digits_le_iff h).2 (Nat.lt_of_not_le hlt)
    omega

/-- The leading digit tells a magnitude up to a factor of ten. -/
theorem pow_adjusted_le {c : Nat} (hc : c ≠ 0) (e : Int) : 10 ^ adjusted c e ≤ magnitude c e := by
  have hd := digits_pos c
  have hadj : adjusted c e = e + (digits c - 1 : Nat) := by
    unfold adjusted
    omega
  calc (10 : ℚ) ^ adjusted c e = magnitude 1 (e + (digits c - 1 : Nat)) := by simp [magnitude, hadj]
    _ = magnitude (1 * 10 ^ (digits c - 1)) e := magnitude_shift ..
    _ ≤ magnitude c e := by rw [magnitude_le_iff, Nat.one_mul]; exact pow_digits_le hc

theorem magnitude_lt_pow (c : Nat) (e : Int) : magnitude c e < 10 ^ (adjusted c e + 1) := by
  have hadj : adjusted c e + 1 = e + digits c := by
    unfold adjusted
    omega
  calc magnitude c e < magnitude (1 * 10 ^ digits c) e := by
        rw [magnitude_lt_iff, Nat.one_mul]; exact lt_pow_digits c
    _ = magnitude 1 (e + digits c) := (magnitude_shift ..).symm
    _ = 10 ^ (adjusted c e + 1) := by simp [magnitude, hadj]

theorem magnitude_lt_of_adjusted_lt {c c' : Nat} {e e' : Int} (hc' : c' ≠ 0)
    (h : adjusted c e < adjusted c' e') : magnitude c e < magnitude c' e' :=
  calc magnitude c e < 10 ^ (adjusted c e + 1) := magnitude_lt_pow c e
    _ ≤ 10 ^ adjusted c' e' := zpow_le_zpow_right₀ (by norm_num) (by omega)
    _ ≤ magnitude c' e' := pow_adjusted_le hc' e'

/-! ## Finite numbers -/

theorem size?_eq_coe {d : Decimal} {x : ℚ} (h : d.size? = some (x : Size)) :
    ∃ n c e, d = .finite n c e ∧ x = signed n (magnitude c e) := by
  cases d with
  | nan => cases h
  | infinite n =>
    have heq := (Option.some.inj h).symm
    cases n
    · exact absurd heq (WithBotTop.coe_ne_top x)
    · exact absurd heq (WithBotTop.coe_ne_bot x)
  | finite n c e =>
    exact ⟨n, c, e, rfl, (WithBotTop.coe_injective (Option.some.inj h)).symm⟩

theorem isFinite_iff {d : Decimal} : d.isFinite = true ↔ ∃ x : ℚ, d.size? = some (x : Size) := by
  constructor
  · intro h
    cases d with
    | finite => exact ⟨_, rfl⟩
    | infinite => cases h
    | nan => cases h
  · rintro ⟨x, h⟩
    obtain ⟨n, c, e, rfl, -⟩ := size?_eq_coe h
    rfl

theorem isBelowZero_iff {d : Decimal} {y : ℚ} (h : d.size? = some (y : Size)) :
    d.isBelowZero = true ↔ y < 0 := by
  obtain ⟨n, c, e, rfl, rfl⟩ := size?_eq_coe h
  have hnonneg := magnitude_nonneg c e
  have hzero : magnitude c e = 0 ↔ c = 0 := magnitude_eq_zero
  cases n with
  | false => simpa [isBelowZero, signed] using hnonneg
  | true =>
    simp only [isBelowZero, Bool.true_and, decide_eq_true_iff, signed, if_true, neg_neg_iff_pos]
    rw [ne_eq, ← hzero]
    exact ⟨fun hne => lt_of_le_of_ne hnonneg (Ne.symm hne), fun hpos => ne_of_gt hpos⟩

/-! ## Floats -/

/-- A fraction with a power of two below it, as a decimal fraction. -/
theorem magnitude_fives (m k : Nat) :
    magnitude (m / m.gcd (2 ^ k) * 5 ^ (2 ^ k / m.gcd (2 ^ k)).log2) (-(2 ^ k / m.gcd (2 ^ k)).log2) =
      m / 2 ^ k := by
  obtain ⟨j, hj, hcommon⟩ := (Nat.dvd_prime_pow Nat.prime_two).1 (Nat.gcd_dvd_right m (2 ^ k))
  have hm : m / 2 ^ j * 2 ^ j = m := Nat.div_mul_cancel (hcommon ▸ Nat.gcd_dvd_left m (2 ^ k))
  have hk : k = (k - j) + j := by omega
  rw [hcommon, Nat.pow_div hj (by omega), Nat.log2_two_pow]
  generalize m / 2 ^ j = a at hm
  generalize k - j = p at hk
  subst hm hk
  have hten : (10 : ℚ) ^ p = 2 ^ p * 5 ^ p := by
    rw [← mul_pow]
    norm_num
  rw [magnitude, zpow_neg, zpow_natCast, hten, pow_add]
  push_cast
  field_simp

/-- A float is taken exactly. -/
theorem ofFloat_size {x : Float} {negative : Bool} {m : Nat} {e : Int}
    (h : Binary64.classify x = .finite negative m e) :
    (ofFloat x).size? = some ((signed negative (m * 2 ^ e) : ℚ) : Size) := by
  unfold ofFloat
  rw [h]
  dsimp only
  split
  next he =>
    have hpow : (2 : ℚ) ^ e.toNat = 2 ^ e := by
      rw [← zpow_natCast, Int.toNat_of_nonneg he]
    rw [size?, magnitude_natCast, Nat.pow_eq]
    push_cast
    rw [hpow]
  next he =>
    have hpow : (2 : ℚ) ^ e = 1 / 2 ^ (-e).toNat := by
      rw [← zpow_natCast, Int.toNat_of_nonneg (by omega), zpow_neg, one_div, inv_inv]
    rw [size?, Nat.pow_eq, Nat.pow_eq, magnitude_fives, hpow, mul_one_div]

/-! ## Comparisons -/

theorem magnitudeLt_iff {c c' : Nat} {e e' : Int} :
    magnitudeLt c e c' e' = true ↔ magnitude c e < magnitude c' e' := by
  unfold magnitudeLt
  split
  next hc =>
    subst hc
    have hpos : 0 < magnitude c' e' ↔ c' ≠ 0 :=
      ⟨fun h h0 => by simp [h0] at h, fun h => magnitude_pos h e'⟩
    rw [magnitude_zero, hpos, decide_eq_true_iff]
  next hc =>
    split
    next hc' =>
      subst hc'
      simp [magnitude_nonneg, not_lt_of_ge]
    next hc' =>
      split
      next hne =>
        rw [decide_eq_true_iff]
        refine ⟨magnitude_lt_of_adjusted_lt hc', fun h => ?_⟩
        -- The other way round the magnitudes would be the other way round too.
        by_contra hge
        have hgt : magnitude c' e' < magnitude c e := magnitude_lt_of_adjusted_lt hc (by omega)
        exact lt_asymm h hgt
      next =>
        -- Both magnitudes in units of the smaller power of ten.
        have hl : (e - min e e').toNat = (e - e').toNat := by omega
        have hr : (e' - min e e').toNat = (e' - e).toNat := by omega
        rw [magnitude_of_le (min_le_left e e') c, magnitude_of_le (min_le_right e e') c', hl, hr,
          magnitude_lt_iff, decide_eq_true_iff, Nat.pow_eq, Nat.pow_eq]

theorem signed_lt_iff {n n' : Bool} {c c' : Nat} {e e' : Int} :
    (match n, n' with
      | false, false => magnitudeLt c e c' e'
      | true, true => magnitudeLt c' e' c e
      | true, false => decide (c ≠ 0 ∨ c' ≠ 0)
      | false, true => false) = true ↔ signed n (magnitude c e) < signed n' (magnitude c' e') := by
  have h := magnitude_nonneg c e
  have h' := magnitude_nonneg c' e'
  cases n <;> cases n'
  · exact magnitudeLt_iff
  · simp only [signed]
    constructor
    · intro hf
      cases hf
    · intro hlt
      simp only [Bool.false_eq_true, if_false, if_true] at hlt
      linarith
  · simp only [signed, Bool.false_eq_true, if_false, if_true, decide_eq_true_iff]
    constructor
    · rintro (hc | hc)
      · have hpos := magnitude_pos hc e
        linarith
      · have hpos := magnitude_pos hc e'
        linarith
    · intro hlt
      by_contra hzero
      obtain ⟨rfl, rfl⟩ : c = 0 ∧ c' = 0 := by omega
      simp at hlt
  · simp only [signed, if_true, neg_lt_neg_iff]
    exact magnitudeLt_iff

theorem bot_lt_size (x : ℚ) : (⊥ : Size) < x :=
  bot_lt_iff_ne_bot.2 (WithBotTop.coe_ne_bot x)

theorem size_lt_top (x : ℚ) : (x : Size) < ⊤ :=
  lt_top_iff_ne_top.2 (WithBotTop.coe_ne_top x)

/-- Decimal numbers compare like their sizes. -/
theorem lt?_eq_some {d d' : Decimal} {b : Bool} (h : d.lt? d' = some b) :
    ∃ x y, d.size? = some x ∧ d'.size? = some y ∧ (b = true ↔ x < y) := by
  cases d with
  | nan => cases h
  | infinite n =>
    cases d' with
    | nan => cases h
    | infinite n' =>
      obtain rfl := Option.some.inj h
      refine ⟨_, _, rfl, rfl, ?_⟩
      cases n <;> cases n' <;> simp
    | finite =>
      obtain rfl := Option.some.inj h
      refine ⟨_, _, rfl, rfl, ?_⟩
      cases n <;> simp [bot_lt_size]
  | finite n c e =>
    cases d' with
    | nan => cases h
    | infinite n' =>
      obtain rfl := Option.some.inj h
      refine ⟨_, _, rfl, rfl, ?_⟩
      cases n' <;> simp [size_lt_top]
    | finite n' c' e' =>
      obtain rfl := Option.some.inj h
      refine ⟨_, _, rfl, rfl, ?_⟩
      rw [WithBotTop.coe_lt_coe]
      exact signed_lt_iff

end FlowWarden.Decimal
