import FlowWarden.Proofs.Decimal.Limits
import Mathlib.Data.Rat.Floor
/-!
# The nearest integer

`Nearest x n` says which integer is nearest to a number, a half going away from zero; there is
exactly one (`exists_nearest`, `Nearest.unique`). It is what rounding to an integer gives, whenever it
has at most 28 digits: `roundHalfUp_eq_ok_iff`.
-/

namespace FlowWarden.Decimal

/-- No integer is nearer to `x` than `n`, and none that is equally near lies farther from zero. -/
structure Nearest (x : ℚ) (n : ℤ) : Prop where
  near : ∀ m : ℤ, |x - n| ≤ |x - m|
  away : ∀ m : ℤ, |x - m| = |x - n| → |m| ≤ |n|

namespace Nearest

variable {x : ℚ} {n m : ℤ}

theorem abs_neg_sub (a b : ℚ) : |-a - b| = |a - -b| := by
  rw [sub_neg_eq_add, ← neg_add', abs_neg]

theorem neg (h : Nearest x n) : Nearest (-x) (-n) where
  near k := by
    have hk := h.near (-k)
    push_cast at hk ⊢
    rwa [abs_neg_sub, abs_neg_sub, neg_neg]
  away k hk := by
    have haway := h.away (-k)
    push_cast at hk haway
    rw [abs_neg_sub, abs_neg_sub, neg_neg] at hk
    rw [abs_neg]
    simpa using haway hk

/-- Two nearest integers are equally far from zero, on the same side of it. -/
theorem unique (h : Nearest x n) (h' : Nearest x m) : n = m := by
  have hdist : |x - n| = |x - m| := le_antisymm (h.near m) (h'.near n)
  have hsize : |n| = |m| := le_antisymm (h'.away n hdist) (h.away m hdist.symm)
  rcases abs_eq_abs.1 hsize with heq | heq
  · exact heq
  · -- Opposite numbers are equally near to zero only, whose nearest integer is zero.
    subst heq
    have hzero := h.near 0
    push_cast at hdist hzero
    have hm : m = 0 := by
      rcases abs_eq_abs.1 hdist with hsame | hopposite
      · have hq : (m : ℚ) = 0 := by linarith
        exact_mod_cast hq
      · have hx : x = 0 := by linarith
        rw [hx] at hzero
        simpa using hzero
    rw [hm, neg_zero]

/-- An integer less than half a unit below and at most half a unit above a number that is not
negative. -/
theorem of_halves (hx : 0 ≤ x) (hlow : x < n + 1 / 2) (hhigh : n ≤ x + 1 / 2) : Nearest x n := by
  have hnear : |x - n| ≤ 1 / 2 := abs_le.2 ⟨by linarith, by linarith⟩
  have hbelow {k : ℤ} (hk : k < n) : (k : ℚ) ≤ n - 1 := by
    have hle : k ≤ n - 1 := by omega
    exact_mod_cast hle
  have habove {k : ℤ} (hk : n < k) : (n : ℚ) + 1 ≤ k := by
    have hle : n + 1 ≤ k := by omega
    exact_mod_cast hle
  constructor
  · intro k
    rcases lt_trichotomy k n with hk | rfl | hk
    · have hle := hbelow hk
      rw [abs_of_nonneg (show 0 ≤ x - k by linarith)]
      linarith
    · exact le_rfl
    · have hle := habove hk
      rw [abs_of_nonpos (show x - k ≤ 0 by linarith)]
      linarith
  · intro k heq
    rw [← heq] at hnear
    obtain ⟨hfar, hclose⟩ := abs_le.1 hnear
    have hk : 0 ≤ k := by
      have hlt : ((-1 : ℤ) : ℚ) < k := by push_cast; linarith
      have := Int.cast_lt.1 hlt
      omega
    rcases le_or_gt k n with hle | hlt
    · rw [abs_of_nonneg hk, abs_of_nonneg (by omega)]
      exact hle
    · -- An integer above lies more than half a unit away.
      have hge := habove hlt
      linarith

end Nearest

theorem exists_nearest (x : ℚ) : ∃ n, Nearest x n := by
  have hnonneg {y : ℚ} (hy : 0 ≤ y) : Nearest y ⌊y + 1 / 2⌋ := by
    have hlow := Int.lt_floor_add_one (y + 1 / 2)
    exact .of_halves hy (by linarith) (Int.floor_le _)
  rcases le_total 0 x with hx | hx
  · exact ⟨_, hnonneg hx⟩
  · have hneg := (hnonneg (neg_nonneg.2 hx)).neg
    rw [neg_neg] at hneg
    exact ⟨_, hneg⟩

/-! ## Dropping digits -/

theorem dropHalfUp_halves (c k : Nat) :
    2 * c < (2 * dropHalfUp c k + 1) * 10 ^ k ∧ 2 * dropHalfUp c k * 10 ^ k ≤ 2 * c + 10 ^ k := by
  have hk : 0 < 10 ^ k := Nat.pow_pos (by omega)
  have hsplit := Nat.div_add_mod c (10 ^ k)
  have hrem := Nat.mod_lt c hk
  have hunits (a : Nat) : (2 * a + 1) * 10 ^ k = 2 * (10 ^ k * a) + 10 ^ k := by ring
  have htwice (a : Nat) : 2 * a * 10 ^ k = 2 * (10 ^ k * a) := by ring
  rw [hunits, htwice]
  unfold dropHalfUp
  simp only [Nat.pow_eq]
  split
  next hd =>
    have hlt : c < 10 ^ (k - 1) :=
      Nat.lt_of_lt_of_le (lt_pow_digits c) (Nat.pow_le_pow_right (by omega) (by omega))
    have hpow : 10 ^ k = 10 ^ (k - 1) * 10 := (Nat.pow_pred_mul (by omega)).symm
    omega
  next =>
    split
    next hup =>
      rw [Nat.mul_add]
      omega
    next hdown => omega

theorem nearestNat_halves {c q : Nat} {e : Int} (h : nearestNat c e = some q) :
    magnitude c e < q + 1 / 2 ∧ (q : ℚ) ≤ magnitude c e + 1 / 2 := by
  unfold nearestNat at h
  split at h
  next hc =>
    obtain rfl := Option.some.inj h
    subst hc
    norm_num
  next =>
    split at h
    next he =>
      split at h
      next => cases h
      next =>
        obtain rfl := Option.some.inj h
        rw [magnitude_of_le he, magnitude_natCast, Int.sub_zero, Nat.pow_eq]
        constructor <;> linarith
    next he =>
      dsimp only at h
      split at h
      next => cases h
      next =>
        obtain rfl := Option.some.inj h
        obtain ⟨hlow, hhigh⟩ := dropHalfUp_halves c (-e).toNat
        -- Both bounds in units of the last digit that was dropped.
        have hunit : (0 : ℚ) < 10 ^ e := by positivity
        have hone : (10 : ℚ) ^ (-e).toNat * 10 ^ e = 1 := by
          rw [← zpow_natCast, ← zpow_add₀ (by norm_num), Int.toNat_of_nonneg (by omega)]
          simp
        have hlow' : (2 * c : ℚ) < (2 * dropHalfUp c (-e).toNat + 1) * 10 ^ (-e).toNat := by
          exact_mod_cast hlow
        have hhigh' : 2 * dropHalfUp c (-e).toNat * 10 ^ (-e).toNat ≤ (2 * c + 10 ^ (-e).toNat : ℚ) := by
          exact_mod_cast hhigh
        have hlow'' := mul_lt_mul_of_pos_right hlow' hunit
        have hhigh'' := mul_le_mul_of_nonneg_right hhigh' hunit.le
        rw [mul_assoc _ ((10 : ℚ) ^ (-e).toNat), hone] at hlow''
        rw [mul_assoc _ ((10 : ℚ) ^ (-e).toNat), add_mul, hone] at hhigh''
        unfold magnitude
        constructor <;> linarith

/-! ## Rounding to an integer -/

theorem signed_intCast (n : Bool) (q : Nat) :
    (((if n then -(q : Int) else q) : Int) : ℚ) = signed n q := by
  cases n <;> simp [signed]

/-- A number is rounded to the integer nearest to it. -/
theorem nearest_of_roundHalfUp {d : Decimal} {k : Int} (h : d.roundHalfUp = .ok (some k)) :
    ∃ x : ℚ, d.size? = some (x : Size) ∧ Nearest x k := by
  cases d with
  | nan negative signaling => cases signaling <;> cases h
  | infinite => cases h
  | finite n c e =>
    unfold roundHalfUp at h
    dsimp only at h
    split at h
    next => cases h
    next q hq =>
      obtain ⟨hlow, hhigh⟩ := nearestNat_halves hq
      have hnearest : Nearest (magnitude c e) (q : ℤ) :=
        .of_halves (magnitude_nonneg c e) (by exact_mod_cast hlow) (by exact_mod_cast hhigh)
      obtain rfl := Option.some.inj (Except.ok.inj h)
      refine ⟨_, rfl, ?_⟩
      cases n with
      | false => exact hnearest
      | true => exact hnearest.neg

theorem abs_signed_sub (n : Bool) (x y : ℚ) : |signed n x - signed n y| = |x - y| := by
  cases n with
  | false => rfl
  | true =>
    rw [signed, signed, if_pos rfl, if_pos rfl, neg_sub_neg]
    exact abs_sub_comm y x

/-- A number that has more than 28 digits before its point has no nearest integer with fewer. -/
theorem Nearest.bound_le {n : Bool} {x : ℚ} {k : Int} (h : Nearest (signed n x) k)
    (hx : magnitude (10 ^ precision) 0 ≤ x) : 10 ^ precision ≤ k.natAbs := by
  rw [magnitude_natCast] at hx
  have hbound : (0 : ℚ) ≤ (10 ^ precision : Nat) := Nat.cast_nonneg _
  have hnear := h.near (if n then -((10 ^ precision : Nat) : Int) else (10 ^ precision : Nat))
  rw [signed_intCast, abs_signed_sub, abs_of_nonneg (show 0 ≤ x - (10 ^ precision : Nat) by linarith)] at hnear
  have hfar := abs_sub_abs_le_abs_sub (signed n x) (k : ℚ)
  rw [abs_signed (hbound.trans hx)] at hfar
  have hle : ((10 ^ precision : Nat) : ℚ) ≤ |(k : ℚ)| := by linarith
  rw [← Int.cast_abs, Int.abs_eq_natAbs] at hle
  exact_mod_cast hle

/-- Of a number with 28 digits the nearest integer is found just if it has no more. -/
theorem roundHalfUp_eq_ok_iff {n : Bool} {c : Nat} {e k : Int} (hc : c < 10 ^ precision) :
    (Decimal.finite n c e).roundHalfUp = .ok (some k) ↔
      Nearest (signed n (magnitude c e)) k ∧ k.natAbs < 10 ^ precision := by
  constructor
  · intro h
    obtain ⟨x, hx, hnearest⟩ := nearest_of_roundHalfUp h
    obtain rfl := WithBotTop.coe_injective (Option.some.inj hx)
    exact ⟨hnearest, natAbs_lt_of_roundHalfUp h⟩
  · rintro ⟨hk, hlt⟩
    cases hq : nearestNat c e with
    | none =>
      have hle := hk.bound_le ((nearestNat_eq_none_iff hc e).1 hq)
      exact absurd hlt (Nat.not_lt.2 hle)
    | some q =>
      have hround : (Decimal.finite n c e).roundHalfUp = .ok (some (if n then -(q : Int) else q)) := by
        simp only [roundHalfUp, hq]
      obtain ⟨x, hx, hnearest⟩ := nearest_of_roundHalfUp hround
      obtain rfl := WithBotTop.coe_injective (Option.some.inj hx)
      rw [hround, hnearest.unique hk]

end FlowWarden.Decimal
