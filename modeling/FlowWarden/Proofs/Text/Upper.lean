import FlowWarden.Text.Upper
/-!
# Upper case is final

Putting a text into upper case a second time changes nothing: `upper_upper`. The reason is that no
character in the upper case of another one has a different upper case itself.
-/

namespace FlowWarden.Text

/-- The code points of a run. -/
def CaseRun.codes (r : CaseRun) : List Nat :=
  (List.range ((r.last - r.first) / r.step + 1)).map fun i => r.first + i * r.step

/-- The code points with another upper case. -/
def lowerCodes : List Nat :=
  (List.range 26).map (0x61 + ·) ++ upperExpansions.map Prod.fst ++ upperRuns.flatMap CaseRun.codes

/-- The code points outside ASCII's own pairs that stand in the upper case of another one. -/
def upperCodes : List Nat :=
  upperExpansions.flatMap Prod.snd ++
    upperRuns.flatMap fun r => r.codes.map fun n : Nat => (n + r.shift).toNat

/-- A set of numbers, as the bits of one number. -/
def bits (ns : List Nat) : Nat :=
  ns.foldr (fun n m => 1 <<< n ||| m) 0

theorem testBit_bits (ns : List Nat) (n : Nat) : (bits ns).testBit n = decide (n ∈ ns) := by
  induction ns with
  | nil => simp [bits]
  | cons k ns ih =>
    have hcons : bits (k :: ns) = 1 <<< k ||| bits ns := rfl
    rw [hcons, Nat.testBit_or, ih, Nat.one_shiftLeft, Nat.testBit_two_pow]
    by_cases h : k = n
    · simp [h]
    · simp [h, Ne.symm h]

theorem notMem_lowerCodes {n : Nat} (h : n ∈ upperCodes) : n ∉ lowerCodes := by
  -- The two sets are compared bit by bit, which takes one operation.
  have hdisjoint : bits lowerCodes &&& bits upperCodes = 0 := by decide +kernel
  intro hn
  have hbit := congrArg (Nat.testBit · n) hdisjoint
  simp [testBit_bits, h, hn] at hbit

theorem CaseRun.mem_codes {r : CaseRun} {n : Nat}
    (h : (decide (r.first ≤ n) && decide (n ≤ r.last) && (n - r.first) % r.step == 0) = true) :
    n ∈ r.codes := by
  simp only [Bool.and_eq_true, decide_eq_true_eq, beq_iff_eq] at h
  obtain ⟨⟨hfirst, hlast⟩, hstep⟩ := h
  refine List.mem_map.2 ⟨(n - r.first) / r.step, List.mem_range.2 ?_, ?_⟩
  · exact Nat.lt_succ_of_le (Nat.div_le_div_right (Nat.sub_le_sub_right hlast _))
  · rw [Nat.div_mul_cancel (Nat.dvd_of_mod_eq_zero hstep)]
    omega

theorem toUpper_ascii {n : Nat} (h : n < 0x80) :
    upperChar (Char.ofNat n).toUpper = [(Char.ofNat n).toUpper] ∧
      (n ∉ lowerCodes → (Char.ofNat n).toUpper = Char.ofNat n) := by
  have hfinal : ∀ n < 0x80, upperChar (Char.ofNat n).toUpper = [(Char.ofNat n).toUpper] := by
    decide +kernel
  have hkept : ∀ n < 0x80, n ∈ (List.range 26).map (0x61 + ·) ∨
      (Char.ofNat n).toUpper = Char.ofNat n := by
    decide +kernel
  refine ⟨hfinal n h, fun hn => (hkept n h).resolve_left fun hlower => hn ?_⟩
  exact List.mem_append_left _ (List.mem_append_left _ hlower)

theorem upperChar_of_notMem {c : Char} (h : c.toNat ∉ lowerCodes) : upperChar c = [c] := by
  unfold upperChar
  dsimp only
  split
  next hascii =>
    have hkept := (toUpper_ascii hascii).2 h
    rw [Char.ofNat_toNat] at hkept
    rw [hkept]
  next =>
    have hexpansions : upperExpansions.lookup c.toNat = none := by
      rw [List.lookup_eq_none_iff]
      intro e he
      rw [bne_iff_ne]
      rintro heq
      refine h (List.mem_append_left _ (List.mem_append_right _ ?_))
      exact heq ▸ List.mem_map_of_mem he
    have hruns : upperRuns.find? (fun r => r.first ≤ c.toNat && c.toNat ≤ r.last &&
        (c.toNat - r.first) % r.step == 0) = none := by
      rw [List.find?_eq_none]
      intro r hr hin
      exact h (List.mem_append_right _ (List.mem_flatMap.2 ⟨r, hr, CaseRun.mem_codes hin⟩))
    rw [hexpansions]
    dsimp only
    rw [hruns]

theorem upperChar_ofNat {n : Nat} (h : n ∈ upperCodes) :
    upperChar (Char.ofNat n) = [Char.ofNat n] := by
  have hzero : (bits lowerCodes).testBit 0 = false := by decide +kernel
  rw [testBit_bits, decide_eq_false_iff_not] at hzero
  apply upperChar_of_notMem
  by_cases hvalid : n.isValidChar
  · rw [Char.ofNat, dif_pos hvalid]
    exact notMem_lowerCodes h
  · -- A number that is no code point gives the character zero.
    rw [Char.ofNat, dif_neg hvalid]
    exact hzero

/-- What stands in the upper case of a character is its own upper case. -/
theorem upperChar_final {c d : Char} (h : d ∈ upperChar c) : upperChar d = [d] := by
  unfold upperChar at h
  dsimp only at h
  split at h
  next hascii =>
    obtain rfl := List.mem_singleton.1 h
    have hfinal := (toUpper_ascii hascii).1
    rwa [Char.ofNat_toNat] at hfinal
  next hother =>
    split at h
    next us hus =>
      obtain ⟨u, hu, rfl⟩ := List.mem_map.1 h
      obtain ⟨before, behind, hsplit, -⟩ := List.lookup_eq_some_iff.1 hus
      have hmem : (c.toNat, us) ∈ upperExpansions := by simp [hsplit]
      exact upperChar_ofNat (List.mem_append_left _ (List.mem_flatMap.2 ⟨_, hmem, hu⟩))
    next hexpansions =>
      split at h
      next r hr =>
        obtain rfl := List.mem_singleton.1 h
        have hin := List.find?_some hr
        refine upperChar_ofNat (List.mem_append_right _ (List.mem_flatMap.2
          ⟨r, List.mem_of_find?_eq_some hr, ?_⟩))
        exact List.mem_map.2 ⟨c.toNat, CaseRun.mem_codes hin, rfl⟩
      next hruns =>
        obtain rfl := List.mem_singleton.1 h
        simp [upperChar, hother, hexpansions, hruns]

theorem flatMap_upperChar {cs : List Char} (h : ∀ c ∈ cs, upperChar c = [c]) :
    cs.flatMap upperChar = cs := by
  induction cs with
  | nil => rfl
  | cons c cs ih =>
    rw [List.flatMap_cons, h c List.mem_cons_self, ih fun d hd => h d (List.mem_cons_of_mem _ hd)]
    rfl

/-- Upper case is not changed by putting it into upper case again. -/
theorem upper_upper (s : String) : upper (upper s) = upper s := by
  unfold upper
  rw [String.toList_ofList, flatMap_upperChar]
  intro d hd
  obtain ⟨c, -, hd⟩ := List.mem_flatMap.1 hd
  exact upperChar_final hd

example : upper "straße" = "STRASSE" := by
  decide +kernel

end FlowWarden.Text
