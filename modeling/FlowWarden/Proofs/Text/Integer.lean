import FlowWarden.Text.Integer
import Mathlib.Data.List.Induction
/-!
# Integers that can be written

Digits below ten write a number below the power of ten that counts them, so an integer that was read
has few enough digits to be written again: `readInteger_writable`.
-/

namespace FlowWarden

namespace Text

theorem groupedDigits_lt {cs : List Char} {afterDigit : Bool} {ds : List Nat}
    (h : groupedDigits afterDigit cs = some ds) : ∀ d ∈ ds, d < 10 := by
  induction cs generalizing afterDigit ds with
  | nil =>
    cases afterDigit with
    | false => cases h
    | true =>
      cases h
      simp
  | cons c cs ih =>
    unfold groupedDigits at h
    split at h
    next =>
      split at h
      next => exact ih h
      next => cases h
    next =>
      split at h
      next d hd =>
        obtain ⟨rest, hrest, rfl⟩ := Option.map_eq_some_iff.1 h
        intro d' hd'
        rcases List.mem_cons.1 hd' with rfl | hd'
        · exact decimalDigit?_lt hd
        · exact ih hrest d' hd'
      next => cases h

theorem ofDigits_lt {ds : List Nat} (h : ∀ d ∈ ds, d < 10) :
    ofDigits 10 ds < Nat.pow 10 ds.length := by
  induction ds using List.reverseRecOn with
  | nil => simp [ofDigits]
  | append_singleton ds d ih =>
    have hd : d < 10 := h d (by simp)
    have hds := ih fun d' hd' => h d' (by simp [hd'])
    have hpow : Nat.pow 10 (ds.length + 1) = Nat.pow 10 ds.length * 10 := rfl
    rw [ofDigits_snoc, List.length_append, List.length_singleton, hpow]
    omega

theorem ofDigits_lt_of_length {ds : List Nat} {width : Nat} (h : ∀ d ∈ ds, d < 10)
    (hlength : ds.length ≤ width) : ofDigits 10 ds < Nat.pow 10 width :=
  Nat.lt_of_lt_of_le (ofDigits_lt h) (Nat.pow_le_pow_right (by decide) hlength)

theorem isWritable_iff {n : Int} :
    isWritable n = true ↔ n.natAbs < Nat.pow 10 maxIntegerDigits :=
  decide_eq_true_iff

/-- An integer that was read can be written. -/
theorem readInteger_writable {s : String} {n : Int} (h : readInteger s = some n) :
    isWritable n = true := by
  unfold readInteger at h
  dsimp only at h
  split at h
  next => cases h
  next ds hds =>
    split at h
    next => cases h
    next hlength =>
      have habs : n.natAbs = ofDigits 10 ds := by
        obtain rfl := Option.some.inj h
        split <;> simp
      rw [isWritable_iff, habs]
      exact ofDigits_lt_of_length (groupedDigits_lt hds) (Nat.not_lt.1 hlength)

end Text

end FlowWarden
