import FlowWarden.Decimal.Arithmetic
import FlowWarden.Proofs.Decimal.Size
/-!
# Rounding to 28 digits

A result is rounded faithfully: no number that a result can hold lies between the exact value and
the rounded one (`Rounds`). So a number that can be held is not changed (`Rounds.eq_of_held`), and
rounding never moves a value past such a number. `mul_rounds` says this of a product.
-/

namespace FlowWarden.Decimal

/-! ## Dropping digits -/

/-- Dropping digits gives the quotient or the number after it, which is taken only if something
was left over. -/
theorem dropHalfEven_cases (c k : Nat) :
    dropHalfEven c k = c / 10 ^ k ∨ dropHalfEven c k = c / 10 ^ k + 1 ∧ 0 < c % 10 ^ k := by
  have hk : 0 < 10 ^ k := Nat.pow_pos (by omega)
  unfold dropHalfEven
  simp only [Nat.pow_eq]
  split
  next hd =>
    have hlt : c < 10 ^ k :=
      Nat.lt_of_lt_of_le (lt_pow_digits c) (Nat.pow_le_pow_right (by omega) (Nat.le_of_lt hd))
    left
    rw [Nat.div_eq_of_lt hlt]
  next =>
    split
    next hup => exact .inr ⟨rfl, by omega⟩
    next => exact .inl rfl

theorem dropHalfEven_le {c k m : Nat} (h : c ≤ m * 10 ^ k) : dropHalfEven c k ≤ m := by
  have hk : 0 < 10 ^ k := Nat.pow_pos (by omega)
  have hq : c / 10 ^ k ≤ m := Nat.div_le_of_le_mul (by rwa [Nat.mul_comm])
  rcases dropHalfEven_cases c k with hd | ⟨hd, hrem⟩
  · omega
  · -- Something was left over, so `c` lies strictly below the next multiple.
    have hsplit := Nat.div_add_mod c (10 ^ k)
    have hlt : c / 10 ^ k < m := by
      by_contra hge
      obtain rfl : c / 10 ^ k = m := by omega
      rw [Nat.mul_comm] at h
      omega
    omega

theorem le_dropHalfEven {c k m : Nat} (h : m * 10 ^ k ≤ c) : m ≤ dropHalfEven c k := by
  have hk : 0 < 10 ^ k := Nat.pow_pos (by omega)
  have hq : m ≤ c / 10 ^ k := (Nat.le_div_iff_mul_le hk).2 h
  rcases dropHalfEven_cases c k with hd | ⟨hd, -⟩ <;> omega

theorem dropHalfEven_none (c : Nat) : dropHalfEven c 0 = c :=
  Nat.le_antisymm (dropHalfEven_le (by simp)) (le_dropHalfEven (by simp))

/-! ## Numbers that a result can hold -/

/-- A number of at most 28 digits whose last one does not stand too far to the right. -/
def Held (z : ℚ) : Prop :=
  ∃ n m f, m < 10 ^ precision ∧ tinyExponent ≤ f ∧ z = signed n (magnitude m f)

/-- No number that a result can hold separates `y` from `x`. -/
structure Rounds (x y : ℚ) : Prop where
  le : ∀ z, Held z → x ≤ z → y ≤ z
  ge : ∀ z, Held z → z ≤ x → z ≤ y

theorem signed_not (n : Bool) (x : ℚ) : signed (!n) x = -signed n x := by
  cases n <;> simp [signed]

theorem Held.neg {z : ℚ} (h : Held z) : Held (-z) := by
  obtain ⟨n, m, f, hm, hf, rfl⟩ := h
  exact ⟨!n, m, f, hm, hf, (signed_not n _).symm⟩

theorem held_intCast {n : Int} (h : n.natAbs < 10 ^ precision) : Held n := by
  refine ⟨decide (n < 0), n.natAbs, 0, h, by decide, ?_⟩
  rw [magnitude, signed_natAbs, zpow_zero, mul_one]

theorem Rounds.neg {x y : ℚ} (h : Rounds x y) : Rounds (-x) (-y) where
  le z hz hx := by
    have hge := h.ge (-z) hz.neg (by linarith)
    linarith
  ge z hz hx := by
    have hle := h.le (-z) hz.neg (by linarith)
    linarith

/-- A number that can be held is not rounded. -/
theorem Rounds.eq_of_held {x y : ℚ} (h : Rounds x y) (hx : Held x) : y = x :=
  le_antisymm (h.le x hx le_rfl) (h.ge x hx le_rfl)

theorem Rounds.lt_of_lt {x y z : ℚ} (h : Rounds x y) (hz : Held z) (hlt : z < y) : z < x := by
  by_contra hge
  exact absurd hlt (not_lt_of_ge (h.le z hz (not_lt.1 hge)))

/-! ## Fitting a number -/

/-- How many digits are dropped from `c · 10 ^ e`. -/
def dropped (c : Nat) (e : Int) : Nat :=
  max (digits c - precision) (tinyExponent - e).toNat

/-- What is left of `c · 10 ^ e`. -/
def kept (c : Nat) (e : Int) : ℚ :=
  magnitude (dropHalfEven c (dropped c e)) (e + dropped c e)

theorem kept_nonneg (c : Nat) (e : Int) : 0 ≤ kept c e :=
  magnitude_nonneg _ _

theorem dropped_digits (c : Nat) (e : Int) : c < 10 ^ precision * 10 ^ dropped c e := by
  have hdigits : digits c ≤ precision + dropped c e := by
    unfold dropped
    omega
  rw [← Nat.pow_add]
  exact Nat.lt_of_lt_of_le (lt_pow_digits c) (Nat.pow_le_pow_right (by omega) hdigits)

theorem dropHalfEven_dropped_le (c : Nat) (e : Int) : dropHalfEven c (dropped c e) ≤ 10 ^ precision :=
  dropHalfEven_le (Nat.le_of_lt (dropped_digits c e))

/-- A unit in the last place above a power of ten, if a place is dropped for the digits' sake. -/
theorem dropped_of_lt {c : Nat} {e f : Int} (hf : tinyExponent ≤ f) (h : f < e + dropped c e) :
    dropped c e = 0 ∨ 10 ^ (precision - 1) * 10 ^ dropped c e ≤ c := by
  by_cases hzero : dropped c e = 0
  · exact .inl hzero
  · right
    have hdigits : digits c = precision + dropped c e := by
      unfold dropped at h hzero ⊢
      omega
    have hc : c ≠ 0 := by
      rintro rfl
      have hone : digits 0 = 1 := rfl
      unfold precision at hdigits
      omega
    have hle := pow_digits_le hc
    rw [hdigits] at hle
    rw [← Nat.pow_add]
    have hexp : precision + dropped c e - 1 = precision - 1 + dropped c e := by
      unfold precision
      omega
    rwa [← hexp]

/-- The numbers that have their last place below that of the result are small. -/
theorem magnitude_lt_of_lt {m : Nat} {f e : Int} (hm : m < 10 ^ precision) (h : f < e) :
    magnitude m f < magnitude (10 ^ (precision - 1)) e := by
  rw [magnitude_of_le (le_of_lt h) (10 ^ (precision - 1)), magnitude_lt_iff, ← Nat.pow_add]
  have hexp : precision ≤ precision - 1 + (e - f).toNat := by
    unfold precision
    omega
  exact Nat.lt_of_lt_of_le hm (Nat.pow_le_pow_right (by omega) hexp)

theorem kept_of_dropped_eq_zero {c : Nat} {e : Int} (h : dropped c e = 0) : kept c e = magnitude c e := by
  simp [kept, h, dropHalfEven_none]

theorem kept_le {c m : Nat} {e f : Int} (hm : m < 10 ^ precision) (hf : tinyExponent ≤ f)
    (h : magnitude c e ≤ magnitude m f) : kept c e ≤ magnitude m f := by
  rcases lt_or_ge f (e + dropped c e) with hlt | hge
  · rcases dropped_of_lt hf hlt with hzero | hlarge
    · rwa [kept_of_dropped_eq_zero hzero]
    · -- Such a number is too small to lie above.
      have hsmall := magnitude_lt_of_lt hm hlt
      rw [magnitude_shift] at hsmall
      have hle := magnitude_le_iff (e := e).2 hlarge
      exact absurd h (not_le_of_gt (lt_of_lt_of_le hsmall hle))
  · rw [magnitude_of_le hge] at h ⊢
    rw [magnitude_shift, magnitude_le_iff] at h
    exact magnitude_le_iff.2 (dropHalfEven_le h)

theorem le_kept {c m : Nat} {e f : Int} (hm : m < 10 ^ precision) (hf : tinyExponent ≤ f)
    (h : magnitude m f ≤ magnitude c e) : magnitude m f ≤ kept c e := by
  rcases lt_or_ge f (e + dropped c e) with hlt | hge
  · rcases dropped_of_lt hf hlt with hzero | hlarge
    · rwa [kept_of_dropped_eq_zero hzero]
    · exact le_trans (le_of_lt (magnitude_lt_of_lt hm hlt)) (magnitude_le_iff.2 (le_dropHalfEven hlarge))
  · rw [magnitude_of_le hge] at h ⊢
    rw [magnitude_shift, magnitude_le_iff] at h
    exact magnitude_le_iff.2 (le_dropHalfEven h)

theorem rounds_kept (c : Nat) (e : Int) : Rounds (magnitude c e) (kept c e) where
  le := by
    rintro z ⟨n, m, f, hm, hf, rfl⟩ h
    cases n with
    | false => exact kept_le hm hf h
    | true =>
      -- Only zero is both above a magnitude and below zero.
      simp only [signed, if_true] at h ⊢
      have hzero : magnitude m f = 0 := by
        have h1 := magnitude_nonneg c e
        have h2 := magnitude_nonneg m f
        linarith
      obtain rfl := magnitude_eq_zero.1 hzero
      rw [magnitude_zero, neg_zero] at h ⊢
      have hle : kept c e ≤ magnitude 0 f := kept_le hm hf (by rwa [magnitude_zero])
      rwa [magnitude_zero] at hle
  ge := by
    rintro z ⟨n, m, f, hm, hf, rfl⟩ h
    cases n with
    | false => exact le_kept hm hf h
    | true =>
      simp only [signed, if_true]
      have h1 := kept_nonneg c e
      have h2 := magnitude_nonneg m f
      linarith

theorem kept_zero (e : Int) : kept 0 e = 0 := by
  have hheld : Held 0 := ⟨false, 0, 0, by decide, by decide, by simp [signed]⟩
  have hrounds := rounds_kept 0 e
  rw [magnitude_zero] at hrounds
  exact hrounds.eq_of_held hheld

/-- The digits and the exponent that are left, with at most 28 digits. -/
theorem kept_digits (c : Nat) (e : Int) :
    ∃ q f, (if precision < digits (dropHalfEven c (dropped c e)) then
          (dropHalfEven c (dropped c e) / 10, e + dropped c e + 1)
        else (dropHalfEven c (dropped c e), e + dropped c e)) = (q, f) ∧
      q < 10 ^ precision ∧ tinyExponent ≤ f ∧ magnitude q f = kept c e := by
  have hprec : 0 < precision := by decide
  have htiny : tinyExponent ≤ e + dropped c e := by
    unfold dropped
    omega
  split
  next hlong =>
    -- Rounding up gave one digit more: the result is a power of ten.
    have hten : dropHalfEven c (dropped c e) = 10 ^ precision := by
      refine Nat.le_antisymm (dropHalfEven_dropped_le c e) ?_
      by_contra hlt
      have hle := (digits_le_iff hprec).2 (Nat.lt_of_not_le hlt)
      omega
    have hshift := magnitude_shift (10 ^ precision / 10) (e + dropped c e) 1
    refine ⟨_, _, rfl, by rw [hten]; decide, by omega, ?_⟩
    rw [kept, hten]
    exact hshift
  next hshort => exact ⟨_, _, rfl, (digits_le_iff hprec).1 (by omega), htiny, rfl⟩

/-- What is left of a number is the result, unless that is too large. -/
theorem fit_cases (n : Bool) (c : Nat) (e : Int) :
    (∃ q f, fit n c e = .ok (.finite n q f) ∧ q < 10 ^ precision ∧ tinyExponent ≤ f ∧
        magnitude q f = kept c e ∧ kept c e < 10 ^ (maxExponent + 1)) ∨
      fit n c e = .error .overflow ∧ 10 ^ (maxExponent + 1) ≤ kept c e := by
  have hpos : (0 : ℚ) < 10 ^ (maxExponent + 1) := by positivity
  unfold fit
  split
  next hc =>
    subst hc
    rw [kept_zero]
    exact .inl ⟨0, _, rfl, by decide, by omega, magnitude_zero _, hpos⟩
  next hc =>
    obtain ⟨q, f, hqf, hq, hf, hkept⟩ := kept_digits c e
    rw [← dropped]
    dsimp only
    rw [hqf]
    dsimp only
    split
    next hover =>
      refine .inr ⟨rfl, ?_⟩
      rw [← hkept]
      exact (zpow_le_zpow_right₀ (by norm_num) (Int.add_one_le_of_lt hover.2)).trans (pow_adjusted_le hover.1 f)
    next hin =>
      refine .inl ⟨q, f, rfl, hq, hf, hkept, ?_⟩
      rw [← hkept]
      by_cases hzero : q = 0
      · exact (magnitude_eq_zero.2 hzero).trans_lt hpos
      · have hadj : adjusted q f ≤ maxExponent := by
          by_contra hgt
          exact hin ⟨hzero, not_le.1 hgt⟩
        exact (magnitude_lt_pow q f).trans_le (zpow_le_zpow_right₀ (by norm_num) (by omega))

/-- A number that was fitted is the exact one with digits dropped. -/
theorem fit_size {n : Bool} {c : Nat} {e : Int} {d : Decimal} (h : fit n c e = .ok d) :
    d.size? = some ((signed n (kept c e) : ℚ) : Size) := by
  rcases fit_cases n c e with ⟨q, f, hfit, -, -, hkept, -⟩ | ⟨hfit, -⟩
  · rw [hfit] at h
    obtain rfl := Except.ok.inj h
    rw [size?, hkept]
  · rw [hfit] at h
    cases h

theorem fit_rounds {n : Bool} {c : Nat} {e : Int} {d : Decimal} (h : fit n c e = .ok d) :
    ∃ y : ℚ, d.size? = some (y : Size) ∧ Rounds (signed n (magnitude c e)) y := by
  refine ⟨_, fit_size h, ?_⟩
  cases n with
  | false => exact rounds_kept c e
  | true => exact (rounds_kept c e).neg

/-- A number with at most 28 digits is fitted as it is. -/
theorem fit_exact (n : Bool) {c : Nat} {e : Int} (hc : digits c ≤ precision) (he : tinyExponent ≤ e)
    (hadj : adjusted c e ≤ maxExponent) : fit n c e = .ok (.finite n c e) := by
  unfold fit
  split
  next hzero =>
    subst hzero
    have hone : digits 0 = 1 := rfl
    rw [adjusted, hone] at hadj
    rw [show max tinyExponent (min maxExponent e) = e by omega]
  next =>
    have hk : max (digits c - precision) (tinyExponent - e).toNat = 0 := by omega
    have hlong : ¬ precision < digits c := by omega
    have hover : ¬ maxExponent < adjusted c e := by omega
    simp [hk, dropHalfEven_none, hlong, hover]

/-! ## Products -/

theorem signed_mul (n n' : Bool) (x y : ℚ) : signed (n != n') (x * y) = signed n x * signed n' y := by
  cases n <;> cases n' <;> simp [signed]

/-- The product of two numbers is their exact product, rounded. -/
theorem mul_rounds {d d' p : Decimal} {x y : ℚ} (hd : d.size? = some (x : Size))
    (hd' : d'.size? = some (y : Size)) (h : d.mul d' = .ok p) :
    ∃ z : ℚ, p.size? = some (z : Size) ∧ Rounds (x * y) z := by
  obtain ⟨n, c, e, rfl, rfl⟩ := size?_eq_coe hd
  obtain ⟨n', c', e', rfl, rfl⟩ := size?_eq_coe hd'
  obtain ⟨z, hz, hr⟩ := fit_rounds h
  refine ⟨z, hz, ?_⟩
  rwa [← magnitude_mul, signed_mul] at hr

/-- A finite product of a number with a finite one. -/
theorem isFinite_of_mul {d g p : Decimal} (h : d.mul g = .ok p) (hg : g.isFinite = true)
    (hp : p.isFinite = true) : d.isFinite = true := by
  cases g with
  | finite n' c' e' =>
    cases d with
    | finite => rfl
    | infinite n =>
      have hmul : (infinite n).mul (.finite n' c' e') =
          if c' = 0 then .error .invalidOperation else .ok (.infinite (n != n')) := rfl
      rw [hmul] at h
      split at h
      next => cases h
      next =>
        obtain rfl := Except.ok.inj h
        cases hp
    | nan n signaling payload =>
      cases signaling with
      | true => cases h
      | false =>
        obtain rfl := Except.ok.inj h
        cases hp
  | infinite => cases hg
  | nan => cases hg

/-! ## Whole numbers -/

theorem ofInt_size (n : Int) : (ofInt n).size? = some ((n : ℚ) : Size) := by
  rw [ofInt, size?, magnitude, signed_natAbs, zpow_zero, mul_one]

theorem nearestNat_lt {c n : Nat} {e : Int} (h : nearestNat c e = some n) : n < 10 ^ precision := by
  have hprec : 0 < precision := by decide
  unfold nearestNat at h
  split at h
  next =>
    obtain rfl := Option.some.inj h
    exact Nat.pow_pos (by omega)
  next =>
    split at h
    next =>
      split at h
      next => cases h
      next hle =>
        obtain rfl := Option.some.inj h
        calc c * 10 ^ e.toNat < 10 ^ digits c * 10 ^ e.toNat :=
              Nat.mul_lt_mul_of_pos_right (lt_pow_digits c) (Nat.pow_pos (by omega))
          _ = 10 ^ (digits c + e.toNat) := (Nat.pow_add ..).symm
          _ ≤ 10 ^ precision := Nat.pow_le_pow_right (by omega) (by omega)
    next =>
      dsimp only at h
      split at h
      next => cases h
      next hle =>
        obtain rfl := Option.some.inj h
        exact (digits_le_iff hprec).1 (by omega)

/-- A nearest integer has at most 28 digits. -/
theorem natAbs_lt_of_roundHalfUp {d : Decimal} {n : Int} (h : d.roundHalfUp = .ok (some n)) :
    n.natAbs < 10 ^ precision := by
  cases d with
  | nan negative signaling => cases signaling <;> cases h
  | infinite => cases h
  | finite negative c e =>
    unfold roundHalfUp at h
    dsimp only at h
    split at h
    next => cases h
    next m hm =>
      have hlt := nearestNat_lt hm
      simp only [Except.ok.injEq, Option.some.injEq] at h
      subst h
      split <;> omega

end FlowWarden.Decimal
