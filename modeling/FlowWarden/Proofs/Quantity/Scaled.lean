import FlowWarden.Proofs.Decimal.Rounding
import FlowWarden.Quantity.Scale
/-!
# Scaled quantities

Scaling a quantity goes through its size, the factor, a product and a nearest integer; it succeeds
if all of them do. The result has at most 28 digits: `scaleCpu_lt`, `scaleMemory_lt`.
-/

namespace FlowWarden

/-! ## Computations that succeed -/

section

variable {ε ε' α β : Type}

theorem bind_eq_ok {x : Except ε α} {f : α → Except ε β} {b : β} :
    x >>= f = .ok b ↔ ∃ a, x = .ok a ∧ f a = .ok b := by
  cases x with
  | error e =>
    constructor
    · intro h
      cases h
    · rintro ⟨a, h, -⟩
      cases h
  | ok a =>
    constructor
    · intro h
      exact ⟨a, rfl, h⟩
    · rintro ⟨a', h, hf⟩
      obtain rfl := Except.ok.inj h
      exact hf

theorem bind_eq_error {x : Except ε α} {f : α → Except ε β} {e : ε} :
    x >>= f = .error e ↔ x = .error e ∨ ∃ a, x = .ok a ∧ f a = .error e := by
  cases x with
  | error e' =>
    constructor
    · intro h
      exact .inl (congrArg Except.error (Except.error.inj h))
    · rintro (h | ⟨a, h, -⟩)
      · exact congrArg Except.error (Except.error.inj h)
      · cases h
  | ok a =>
    constructor
    · intro h
      exact .inr ⟨a, rfl, h⟩
    · rintro (h | ⟨a', h, hf⟩)
      · cases h
      · obtain rfl := Except.ok.inj h
        exact hf

theorem mapError_eq_ok {x : Except ε α} {f : ε → ε'} {a : α} : x.mapError f = .ok a ↔ x = .ok a := by
  cases x <;> simp [Except.mapError]

theorem mapError_eq_error {x : Except ε α} {f : ε → ε'} {e' : ε'} :
    x.mapError f = .error e' ↔ ∃ e, x = .error e ∧ f e = e' := by
  cases x <;> simp [Except.mapError]

end

namespace Quantity

open Decimal (precision)

theorem nearest_eq_ok {d : Decimal} {n : Int} : nearest d = .ok n ↔ d.roundHalfUp = .ok (some n) := by
  unfold nearest
  split <;> simp_all

theorem nearest_lt {d : Decimal} {n : Int} (h : nearest d = .ok n) : n.natAbs < 10 ^ precision :=
  Decimal.natAbs_lt_of_roundHalfUp (nearest_eq_ok.1 h)

theorem scaleCpu_lt {raw factor : Document} {n : Int} (h : scaleCpu raw factor = .ok n) :
    n.natAbs < 10 ^ precision := by
  obtain ⟨cores, -, h⟩ := bind_eq_ok.1 h
  obtain ⟨millis, -, h⟩ := bind_eq_ok.1 h
  exact nearest_lt h

theorem scaleMemory_lt {raw factor : Document} {n : Int} (h : scaleMemory raw factor = .ok n) :
    n.natAbs < 10 ^ precision := by
  obtain ⟨bytes, -, h⟩ := bind_eq_ok.1 h
  exact nearest_lt h

end Quantity

end FlowWarden
