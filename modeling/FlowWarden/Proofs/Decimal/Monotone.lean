import FlowWarden.Proofs.Decimal.Nearest
/-!
# Rounding keeps the order

A larger number is not rounded to a smaller result, whatever digits the two have: `kept_mono`. So a
product that is not negative grows with its factors, and does not overflow unless the larger one
does: `mul_mono`. The nearest integers of two results are in the same order: `nearestNat_mono`.
-/

namespace FlowWarden.Decimal

/-! ## Rounding to 28 digits -/

theorem held_of_dropped_eq_zero {c : Nat} {e : Int} (h : dropped c e = 0) : Held (magnitude c e) := by
  have hc := dropped_digits c e
  rw [h, pow_zero, mul_one] at hc
  refine ⟨false, c, e, hc, ?_, rfl⟩
  unfold dropped at h
  omega

theorem kept_le_bound (c : Nat) (e : Int) :
    kept c e ≤ magnitude (10 ^ precision) (e + dropped c e) :=
  magnitude_le_iff.2 (dropHalfEven_dropped_le c e)

/-- Numbers that are rounded at the same place. -/
theorem kept_mono_of_eq {c c' : Nat} {e e' : Int} (h : magnitude c e ≤ magnitude c' e')
    (hplace : e + dropped c e = e' + dropped c' e') : kept c e ≤ kept c' e' := by
  unfold kept
  rw [hplace, magnitude_le_iff]
  rcases Nat.eq_zero_or_pos (dropHalfEven c (dropped c e)) with hzero | hpos
  · rw [hzero]
    exact Nat.zero_le _
  · have htwice : magnitude (2 * c) e ≤ magnitude (2 * c') e' := by
      unfold magnitude at h ⊢
      push_cast
      linarith
    -- The half below the rounded number lies below the larger number too.
    have hhalf := (le_dropHalfEven_iff hpos).1 (Nat.le_refl _)
    rw [le_dropHalfEven_iff hpos]
    rcases Nat.mod_two_eq_zero_or_one (dropHalfEven c (dropped c e)) with heven | hodd
    · rw [heven, add_zero] at hhalf ⊢
      rw [← magnitude_le_iff (e := e), ← magnitude_shift, hplace, magnitude_shift] at hhalf
      exact magnitude_le_iff.1 (hhalf.trans htwice)
    · rw [hodd, Nat.add_one_le_iff] at hhalf ⊢
      rw [← magnitude_lt_iff (e := e), ← magnitude_shift, hplace, magnitude_shift] at hhalf
      exact magnitude_lt_iff.1 (hhalf.trans_le htwice)

/-- Rounding keeps the order. -/
theorem kept_mono {c c' : Nat} {e e' : Int} (h : magnitude c e ≤ magnitude c' e') :
    kept c e ≤ kept c' e' := by
  have hplace (c : Nat) (e : Int) : tinyExponent ≤ e + dropped c e := by
    unfold dropped
    omega
  rcases lt_trichotomy (e + dropped c e) (e' + dropped c' e') with hlt | heq | hgt
  · rcases dropped_of_lt (hplace c e) hlt with hzero | hlarge
    · rw [kept_of_dropped_eq_zero hzero]
      exact (rounds_kept c e).le _ (held_of_dropped_eq_zero hzero) h
    · -- The larger number has 28 digits above the place of the smaller.
      have hexact : magnitude (10 ^ (precision - 1)) (e' + dropped c' e') ≤ magnitude c' e' := by
        rw [magnitude_shift]
        exact magnitude_le_iff.2 hlarge
      calc kept c e ≤ magnitude (10 ^ precision) (e + dropped c e) := kept_le_bound c e
        _ ≤ magnitude (10 ^ (precision - 1)) (e' + dropped c' e') := bound_le hlt
        _ ≤ kept c' e' := le_kept (by decide) (hplace c' e') hexact
  · exact kept_mono_of_eq h heq
  · rcases dropped_of_lt (hplace c' e') hgt with hzero | hlarge
    · rw [kept_of_dropped_eq_zero hzero]
      exact (rounds_kept c' e').ge _ (held_of_dropped_eq_zero hzero) h
    · -- The smaller number cannot have 28 digits above the place of the larger.
      have hlarger : magnitude c' e' < magnitude c e :=
        calc magnitude c' e' < magnitude (10 ^ precision) (e' + dropped c' e') := by
              rw [magnitude_shift]
              exact magnitude_lt_iff.2 (dropped_digits c' e')
          _ ≤ magnitude (10 ^ (precision - 1)) (e + dropped c e) := bound_le hgt
          _ ≤ magnitude c e := by
              rw [magnitude_shift]
              exact magnitude_le_iff.2 hlarge
      exact absurd h (not_le_of_gt hlarger)

/-! ## Results that are not negative -/

/-- A result that is a number and not negative. -/
inductive Unsigned : Decimal → ℚ → Prop
  | mk {n q f} : q < 10 ^ precision → 0 ≤ signed n (magnitude q f) →
      Unsigned (.finite n q f) (magnitude q f)

theorem signed_of_nonneg {n : Bool} {x : ℚ} (hx : 0 ≤ x) (h : 0 ≤ signed n x) : signed n x = x := by
  cases n with
  | false => rfl
  | true =>
    rw [signed, if_pos rfl] at h ⊢
    linarith

/-- Of the numbers with a minus only zero is not negative. -/
theorem eq_zero_of_signed {c : Nat} {e : Int} (h : 0 ≤ signed true (magnitude c e)) : c = 0 := by
  have hnonneg := magnitude_nonneg c e
  rw [signed, if_pos rfl] at h
  exact magnitude_eq_zero.1 (by linarith)

theorem Unsigned.size {d : Decimal} {z : ℚ} (h : Unsigned d z) : d.size? = some (z : Size) := by
  cases h with
  | mk _ hsign => rw [size?, signed_of_nonneg (magnitude_nonneg _ _) hsign]

theorem Unsigned.nonneg {d : Decimal} {z : ℚ} (h : Unsigned d z) : 0 ≤ z := by
  cases h with
  | mk => exact magnitude_nonneg _ _

/-- What is left of a number has its sign. -/
theorem unsigned_of_kept {n : Bool} {c q : Nat} {e f : Int} (hsign : 0 ≤ signed n (magnitude c e))
    (hq : q < 10 ^ precision) (hkept : magnitude q f = kept c e) :
    Unsigned (.finite n q f) (kept c e) := by
  rw [← hkept]
  refine .mk hq ?_
  cases n with
  | false => exact magnitude_nonneg q f
  | true =>
    rw [hkept, eq_zero_of_signed hsign, kept_zero]
    simp [signed]

/-- A product that is not negative grows with its factors. -/
theorem mul_mono {d d' g g' p' : Decimal} {x x' y y' : ℚ} (hd : d.size? = some (x : Size))
    (hd' : d'.size? = some (x' : Size)) (hg : g.size? = some (y : Size)) (hg' : g'.size? = some (y' : Size))
    (hnonneg : 0 ≤ x * y) (hle : x * y ≤ x' * y') (h : d'.mul g' = .ok p') :
    ∃ p z z', d.mul g = .ok p ∧ Unsigned p z ∧ Unsigned p' z' ∧ z ≤ z' := by
  obtain ⟨n, c, e, rfl, rfl⟩ := size?_eq_coe hd
  obtain ⟨n', c', e', rfl, rfl⟩ := size?_eq_coe hd'
  obtain ⟨m, b, f, rfl, rfl⟩ := size?_eq_coe hg
  obtain ⟨m', b', f', rfl, rfl⟩ := size?_eq_coe hg'
  have hnonneg' := hnonneg.trans hle
  rw [← signed_mul, magnitude_mul] at hnonneg hnonneg'
  rw [← signed_mul, ← signed_mul, magnitude_mul, magnitude_mul,
    signed_of_nonneg (magnitude_nonneg _ _) hnonneg, signed_of_nonneg (magnitude_nonneg _ _) hnonneg'] at hle
  have hkept := kept_mono hle
  have hfit' : fit (n' != m') (c' * b') (e' + f') = .ok p' := h
  rcases fit_cases (n' != m') (c' * b') (e' + f') with ⟨q', k', hok', hq', -, hvalue', hlimit⟩ | ⟨herr, -⟩
  · obtain rfl := Except.ok.inj (hfit'.symm.trans hok')
    rcases fit_cases (n != m) (c * b) (e + f) with ⟨q, k, hok, hq, -, hvalue, -⟩ | ⟨-, hover⟩
    · exact ⟨_, _, _, hok, unsigned_of_kept hnonneg hq hvalue, unsigned_of_kept hnonneg' hq' hvalue', hkept⟩
    · exact absurd (hover.trans hkept) (not_le_of_gt hlimit)
  · rw [hfit'] at herr
    cases herr

/-! ## Nearest integers -/

/-- The nearest integers of two results are in the same order. -/
theorem nearestNat_mono {q q' k' : Nat} {f f' : Int} (hq : q < 10 ^ precision) (hq' : q' < 10 ^ precision)
    (hle : magnitude q f ≤ magnitude q' f') (h : nearestNat q' f' = some k') :
    ∃ k, nearestNat q f = some k ∧ k ≤ k' := by
  cases hk : nearestNat q f with
  | none =>
    have hlarge := ((nearestNat_eq_none_iff hq f).1 hk).trans hle
    rw [(nearestNat_eq_none_iff hq' f').2 hlarge] at h
    cases h
  | some k =>
    obtain ⟨-, hhigh⟩ := nearestNat_halves hk
    obtain ⟨hlow, -⟩ := nearestNat_halves h
    have hlt : (k : ℚ) < (k' + 1 : Nat) := by
      push_cast
      linarith
    exact ⟨k, rfl, Nat.lt_succ_iff.1 (Nat.cast_lt.1 hlt)⟩

theorem roundHalfUp_of_nonneg {n : Bool} {q : Nat} {f : Int} (h : 0 ≤ signed n (magnitude q f)) :
    (Decimal.finite n q f).roundHalfUp =
      match nearestNat q f with
      | none => .error .invalidOperation
      | some k => .ok (some (k : Int)) := by
  cases n with
  | false => rfl
  | true =>
    obtain rfl := eq_zero_of_signed h
    rfl

/-- Rounding to an integer keeps the order of the numbers that are not negative. -/
theorem roundHalfUp_mono {p p' : Decimal} {z z' : ℚ} {k' : Int} (hp : Unsigned p z) (hp' : Unsigned p' z')
    (hle : z ≤ z') (h : p'.roundHalfUp = .ok (some k')) :
    ∃ k, p.roundHalfUp = .ok (some k) ∧ 0 ≤ k ∧ k ≤ k' := by
  obtain ⟨hq, hsign⟩ := hp
  obtain ⟨hq', hsign'⟩ := hp'
  rw [roundHalfUp_of_nonneg hsign'] at h
  rw [roundHalfUp_of_nonneg hsign]
  split at h
  next => cases h
  next m' hm' =>
    obtain ⟨m, hm, hmle⟩ := nearestNat_mono hq hq' hle hm'
    obtain rfl := Option.some.inj (Except.ok.inj h)
    rw [hm]
    exact ⟨m, rfl, by omega, by omega⟩

end FlowWarden.Decimal
