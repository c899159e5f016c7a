/-!
# Decimal digits

Every script with a positional decimal system has ten consecutive code points for its digits,
so the table holds the zeros only. A number may be written with the digits of any script, also
of several. Main statement: `decimalDigit?_lt`, a digit is below ten.
-/

namespace FlowWarden.Text

/-- The code points of the digit zero, one for each script. -/
def digitZeros : List Nat :=
  [
   0x30, 0x660, 0x6f0, 0x7c0, 0x966, 0x9e6, 0xa66, 0xae6, 0xb66, 0xbe6, 0xc66, 0xce6, 0xd66,
   0xde6, 0xe50, 0xed0, 0xf20, 0x1040, 0x1090, 0x17e0, 0x1810, 0x1946, 0x19d0, 0x1a80, 0x1a90,
   0x1b50, 0x1bb0, 0x1c40, 0x1c50, 0xa620, 0xa8d0, 0xa900, 0xa9d0, 0xa9f0, 0xaa50, 0xabf0,
   0xff10, 0x104a0, 0x10d30, 0x11066, 0x110f0, 0x11136, 0x111d0, 0x112f0, 0x11450, 0x114d0,
   0x11650, 0x116c0, 0x11730, 0x118e0, 0x11950, 0x11c50, 0x11d50, 0x11da0, 0x16a60, 0x16ac0,
   0x16b50, 0x1d7ce, 0x1d7d8, 0x1d7e2, 0x1d7ec, 0x1d7f6, 0x1e140, 0x1e2f0, 0x1e950, 0x1fbf0]

/-- The value of a decimal digit of any script. -/
def decimalDigit? (c : Char) : Option Nat :=
  if '0' ≤ c ∧ c ≤ '9' then some (c.toNat - '0'.toNat)
  else if c.toNat < 0x80 then none
  else (digitZeros.find? fun z => z ≤ c.toNat && c.toNat < z + 10).map fun z => c.toNat - z

theorem decimalDigit?_lt {c : Char} {d : Nat} (h : decimalDigit? c = some d) : d < 10 := by
  unfold decimalDigit? at h
  split at h
  case isTrue hc =>
    have h9 : c.toNat ≤ '9'.toNat := hc.2
    have : '9'.toNat = 57 := rfl
    have : '0'.toNat = 48 := rfl
    simp only [Option.some.injEq] at h
    omega
  case isFalse =>
    split at h
    · simp at h
    · simp only [Option.map_eq_some_iff] at h
      obtain ⟨z, hz, rfl⟩ := h
      have := List.find?_some hz
      simp only [Bool.and_eq_true, decide_eq_true_eq] at this
      omega

end FlowWarden.Text
