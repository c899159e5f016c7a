import FlowWarden.Proofs.Decimal.Rounding
/-!
# When a result is too large

A result overflows from a million digits on, and the nearest integer of a number must have at most
28. Both limits are powers of ten, and a number reaches one of them by rounding exactly if it lies
at most half a unit in the last place below it: `le_kept_iff`. At the half the even neighbour is
the power of ten. A product that has at most 28 digits and is not too large is exact: `mul_exact`.
-/

namespace FlowWarden.Decimal

theorem abs_signed {n : Bool} {x : ℚ} (hx : 0 ≤ x) : |signed n x| = x := by
  cases n
  · exact abs_of_nonneg hx
  · exact (abs_neg x).trans (abs_of_nonneg hx)

/-! ## Rounding up to a power of ten -/

/-- A number is reached from the half below it on if it is even, and above the half if it is odd. -/
theorem le_dropHalfEven_iff {c k m : Nat} (hm : 0 < m) :
    m ≤ dropHalfEven c k ↔ (2 * m - 1) * 10 ^ k + m % 2 ≤ 2 * c := by
  have hk : 0 < 10 ^ k := Nat.pow_pos (by omega)
  have hsplit := Nat.div_add_mod c (10 ^ k)
  have hrem := Nat.mod_lt c hk
  have hunits (a : Nat) : (2 * a + 1) * 10 ^ k = 2 * (10 ^ k * a) + 10 ^ k := by ring
  have hmono {a b : Nat} (h : a ≤ b) : 10 ^ k * a ≤ 10 ^ k * b := Nat.mul_le_mul_left _ h
  obtain ⟨n, rfl⟩ : ∃ n, m = n + 1 := ⟨m - 1, by omega⟩
  rw [show 2 * (n + 1) - 1 = 2 * n + 1 by omega, hunits]
  unfold dropHalfEven
  simp only [Nat.pow_eq]
  split
  next hd =>
    have hlt : c < 10 ^ (k - 1) :=
      Nat.lt_of_lt_of_le (lt_pow_digits c) (Nat.pow_le_pow_right (by omega) (by omega))
    have hpow : 10 ^ k = 10 ^ (k - 1) * 10 := (Nat.pow_pred_mul (by omega)).symm
    omega
  next =>
    -- The quotient decides, except where the number is the one after it.
    rcases Nat.lt_trichotomy n (c / 10 ^ k) with hlt | rfl | hgt
    · have h := hmono (show n + 1 ≤ c / 10 ^ k by omega)
      rw [Nat.mul_add] at h
      refine iff_of_true ?_ (by omega)
      split <;> omega
    · split <;> omega
    · have h := hmono (show c / 10 ^ k + 1 ≤ n by omega)
      rw [Nat.mul_add] at h
      refine iff_of_false ?_ (by omega)
      split <;> omega

theorem precision_pow_even : 10 ^ precision % 2 = 0 := by
  decide

theorem magnitude_bound (f : Int) : magnitude (10 ^ precision) f = (10 : ℚ) ^ precision * 10 ^ f := by
  unfold magnitude
  push_cast
  rfl

theorem bound_eq_zpow (f : Int) : magnitude (10 ^ precision) f = 10 ^ (f + precision) := by
  have hshift := magnitude_shift 1 f precision
  rw [Nat.one_mul] at hshift
  rw [← hshift]
  simp [magnitude]

/-- Half a unit below, in whole numbers. -/
theorem half_below_le_iff (f : Int) (c : Nat) (e : Int) :
    ((10 : ℚ) ^ precision - 1 / 2) * 10 ^ f ≤ magnitude c e ↔
      magnitude (2 * 10 ^ precision - 1) f ≤ magnitude (2 * c) e := by
  have hone : 1 ≤ 2 * 10 ^ precision := by decide
  unfold magnitude
  push_cast [Nat.cast_sub hone]
  constructor <;> intro h <;> linarith

/-- In units that are larger than the last place kept, nothing reaches 28 digits and one more. -/
theorem kept_small {f : Int} {c : Nat} {e : Int} (h : e + dropped c e < f) :
    kept c e < magnitude (10 ^ precision) f ∧
      magnitude (2 * c) e < magnitude (2 * 10 ^ precision - 1) f := by
  have hpow {k : Nat} (hk : 0 < k) : 10 ≤ 10 ^ k := Nat.le_self_pow (by omega) 10
  constructor
  · refine lt_of_le_of_lt (magnitude_le_iff.2 (dropHalfEven_dropped_le c e)) ?_
    rw [magnitude_of_le (le_of_lt h) (10 ^ precision), magnitude_lt_iff]
    have hten := hpow (show 0 < (f - (e + dropped c e)).toNat by omega)
    have hpos : 0 < 10 ^ precision := by decide
    nlinarith
  · have hlt := dropped_digits c e
    have hle : e ≤ f := by omega
    have hexp : (f - e).toNat = (f - (e + dropped c e)).toNat + dropped c e := by omega
    have hten := hpow (show 0 < (f - (e + dropped c e)).toNat by omega)
    rw [magnitude_of_le hle, magnitude_lt_iff, hexp, Nat.pow_add, ← Nat.mul_assoc]
    have hfactor : 2 * 10 ^ precision ≤
        (2 * 10 ^ precision - 1) * 10 ^ (f - (e + dropped c e)).toNat := by
      have hpos : 1 ≤ 10 ^ precision := by decide
      calc 2 * 10 ^ precision ≤ (2 * 10 ^ precision - 1) * 10 := by omega
        _ ≤ _ := Nat.mul_le_mul_left _ hten
    calc 2 * c < 2 * (10 ^ precision * 10 ^ dropped c e) := by omega
      _ = 2 * 10 ^ precision * 10 ^ dropped c e := (Nat.mul_assoc ..).symm
      _ ≤ _ := Nat.mul_le_mul_right _ hfactor

/-- A unit above the last place that is kept, a power of ten stands for 28 digits and one more. -/
theorem bound_le {f g : Int} (h : f < g) :
    magnitude (10 ^ precision) f ≤ magnitude (10 ^ (precision - 1)) g := by
  have hexp : precision ≤ precision - 1 + (g - f).toNat := by omega
  rw [magnitude_of_le (le_of_lt h) (10 ^ (precision - 1)), magnitude_le_iff, ← Nat.pow_add]
  exact Nat.pow_le_pow_right (by omega) hexp

/-- A magnitude is rounded to 28 digits and a unit more if it lies within half a unit of that. -/
theorem le_kept_iff {f : Int} (hf : tinyExponent ≤ f) (c : Nat) (e : Int) :
    magnitude (10 ^ precision) f ≤ kept c e ↔
      ((10 : ℚ) ^ precision - 1 / 2) * 10 ^ f ≤ magnitude c e := by
  rw [half_below_le_iff]
  rcases lt_trichotomy (e + dropped c e) f with hlt | heq | hgt
  · obtain ⟨hk, hm⟩ := kept_small hlt
    exact ⟨fun h => absurd h (not_le_of_gt hk), fun h => absurd h (not_le_of_gt hm)⟩
  · rw [← heq, magnitude_shift (2 * 10 ^ precision - 1), kept, magnitude_le_iff, magnitude_le_iff]
    rw [le_dropHalfEven_iff (by decide), precision_pow_even, add_zero]
  · rcases dropped_of_lt hf hgt with hzero | hlarge
    · -- Nothing is dropped, and whole numbers do not lie between.
      rw [kept_of_dropped_eq_zero hzero]
      have hle : f ≤ e := by omega
      rw [magnitude_of_le hle c, magnitude_of_le hle (2 * c), magnitude_le_iff, magnitude_le_iff]
      rw [Nat.mul_assoc]
      omega
    · -- With 28 digits before it, the last place kept stands for more than that.
      have hle := bound_le hgt
      have hexact : magnitude (10 ^ (precision - 1)) (e + dropped c e) ≤ magnitude c e := by
        rw [magnitude_shift]
        exact magnitude_le_iff.2 hlarge
      have hkept := le_kept (by decide) (by omega) hexact
      refine ⟨fun _ => ?_, fun _ => hle.trans hkept⟩
      rw [← half_below_le_iff]
      have hunit : (0 : ℚ) < 10 ^ f := by positivity
      have hreach := hle.trans hexact
      rw [magnitude_bound] at hreach
      linarith

/-! ## Exact products -/

/-- A number that a result can hold and that is not too large for one. -/
def Representable (z : ℚ) : Prop :=
  Held z ∧ |z| < 10 ^ (maxExponent + 1)

theorem Representable.of_abs_lt_one {z : ℚ} (h : Held z) (hlt : |z| < 1) : Representable z :=
  ⟨h, hlt.trans (one_lt_zpow₀ (by norm_num) (by decide))⟩

theorem Held.of_signed {n : Bool} {z : ℚ} (h : Held (signed n z)) : Held z := by
  cases n with
  | false => exact h
  | true =>
    have hneg := h.neg
    rwa [signed, if_pos rfl, neg_neg] at hneg

/-- A product that is representable is not rounded. -/
theorem mul_exact {d d' : Decimal} {x y : ℚ} (hd : d.size? = some (x : Size))
    (hd' : d'.size? = some (y : Size)) (h : Representable (x * y)) :
    ∃ n q f, d.mul d' = .ok (.finite n q f) ∧ q < 10 ^ precision ∧ tinyExponent ≤ f ∧
      signed n (magnitude q f) = x * y := by
  obtain ⟨n, c, e, rfl, rfl⟩ := size?_eq_coe hd
  obtain ⟨n', c', e', rfl, rfl⟩ := size?_eq_coe hd'
  rw [← signed_mul, magnitude_mul] at h ⊢
  obtain ⟨hheld, hlimit⟩ := h
  have hkept : kept (c * c') (e + e') = magnitude (c * c') (e + e') :=
    (rounds_kept _ _).eq_of_held hheld.of_signed
  rw [abs_signed (magnitude_nonneg _ _)] at hlimit
  rcases fit_cases (n != n') (c * c') (e + e') with ⟨q, f, hfit, hq, hf, hqf, -⟩ | ⟨-, hover⟩
  · exact ⟨_, q, f, hfit, hq, hf, by rw [hqf, hkept]⟩
  · rw [hkept] at hover
    exact absurd hlimit (not_lt_of_ge hover)

/-! ## Nearest integers -/

theorem lt_digits_add_iff {c k : Nat} (hc : c ≠ 0) :
    precision < digits c + k ↔ 10 ^ precision ≤ c * 10 ^ k := by
  have hd := digits_pos c
  constructor
  · intro h
    calc 10 ^ precision ≤ 10 ^ (digits c - 1 + k) := Nat.pow_le_pow_right (by omega) (by omega)
      _ = 10 ^ (digits c - 1) * 10 ^ k := Nat.pow_add ..
      _ ≤ c * 10 ^ k := Nat.mul_le_mul_right _ (pow_digits_le hc)
  · intro h
    by_contra hle
    have hlt : c * 10 ^ k < 10 ^ precision :=
      calc c * 10 ^ k < 10 ^ digits c * 10 ^ k :=
            Nat.mul_lt_mul_of_pos_right (lt_pow_digits c) (Nat.pow_pos (by omega))
        _ = 10 ^ (digits c + k) := (Nat.pow_add ..).symm
        _ ≤ 10 ^ precision := Nat.pow_le_pow_right (by omega) (by omega)
    omega

/-- Dropping digits from a number with 28 leaves no more. -/
theorem dropHalfUp_lt {c k : Nat} (hc : c < 10 ^ precision) (hk : 0 < k) :
    dropHalfUp c k < 10 ^ precision := by
  have hten : 10 ^ precision = 10 * 10 ^ (precision - 1) := by decide
  have hdiv : c / 10 ^ k ≤ c / 10 :=
    Nat.div_le_div_left (Nat.le_self_pow (by omega) 10) (by omega)
  have hpos : 1 < 10 ^ (precision - 1) := by decide
  unfold dropHalfUp
  simp only [Nat.pow_eq]
  split
  next => omega
  next =>
    split
    next => omega
    next => omega

/-- The nearest integer of a number with 28 digits has more only if the number itself has. -/
theorem nearestNat_eq_none_iff {c : Nat} (hc : c < 10 ^ precision) (e : Int) :
    nearestNat c e = none ↔ magnitude (10 ^ precision) 0 ≤ magnitude c e := by
  have hprec : 0 < precision := by decide
  unfold nearestNat
  split
  next hzero =>
    subst hzero
    rw [magnitude_zero, magnitude_natCast]
    simp [precision]
  next hzero =>
    split
    next he =>
      rw [magnitude_of_le he c, magnitude_le_iff, Int.sub_zero, ← lt_digits_add_iff hzero]
      split <;> simp_all
    next he =>
      -- Neither side holds: the number has fewer than 28 digits before the point.
      have hsmall : magnitude c e < magnitude (10 ^ precision) 0 := by
        rw [magnitude_of_le (show e ≤ 0 by omega) (10 ^ precision), magnitude_lt_iff]
        exact Nat.lt_of_lt_of_le hc (Nat.le_mul_of_pos_right _ (Nat.pow_pos (by omega)))
      have hdigits := (digits_le_iff hprec).2 (dropHalfUp_lt hc (show 0 < (-e).toNat by omega))
      dsimp only
      rw [if_neg (by omega)]
      simp [not_le_of_gt hsmall]

end FlowWarden.Decimal
