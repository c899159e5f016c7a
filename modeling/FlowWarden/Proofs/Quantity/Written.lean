import FlowWarden.Proofs.Decimal.Numeral
import FlowWarden.Quantity.Format
/-!
# Reading a written quantity

What `formatCpu` and `formatMemory` write is read back to exactly the same size:
`parse_formatCpu`, `parse_formatMemory`.
-/

namespace FlowWarden

open Text

/-! ## Texts without blanks -/

theorem Text.trimChars_eq_self {cs : List Char} (h : ∀ c ∈ cs, isBlank c = false) :
    trimChars cs = cs := by
  have hdrop : ∀ ds : List Char, (∀ c ∈ ds, isBlank c = false) → ds.dropWhile isBlank = ds := by
    intro ds hds
    rw [List.dropWhile_eq_self_iff]
    intro hlen
    simp [hds ds[0] (List.getElem_mem hlen)]
  unfold trimChars
  rw [hdrop cs h, hdrop cs.reverse (by simpa using h), List.reverse_reverse]

/-- A character of a written quantity. -/
def Plain (c : Char) : Prop :=
  0x20 < c.toNat ∧ c.toNat < 0x80

theorem Plain.isBlank {c : Char} (h : Plain c) : isBlank c = false := by
  unfold Plain at h
  simp only [Text.isBlank, Bool.or_eq_false_iff, Bool.and_eq_false_iff, decide_eq_false_iff_not,
    beq_eq_false_iff_ne]
  omega

theorem plain_of_isDigit {c : Char} (h : c.isDigit = true) : Plain c := by
  have hb := isDigit_bounds h
  unfold Plain
  omega

/-! ## Written integers -/

theorem isDigit_of_mem_toDigits {n : Nat} {c : Char} (h : c ∈ Nat.toDigits 10 n) : c.isDigit = true :=
  Nat.isDigit_of_mem_toDigits (by omega) (by omega) h

/-- The sign that an integer is written with. -/
def signText (n : Int) : List Char :=
  if n < 0 then ['-'] else []

theorem toList_toString (n : Int) : (toString n).toList = signText n ++ Nat.toDigits 10 n.natAbs := by
  cases n with
  | ofNat m => simp [signText, toString, Int.repr]
  | negSucc m => simp [signText, toString, Int.repr]

namespace Decimal

theorem digitsValue_toDigits (n : Nat) : digitsValue (Nat.toDigits 10 n) = n := by
  have h := Nat.ofDigitChars_ten_toDigits (n := n)
  rw [Nat.ofDigitChars_eq_foldl] at h
  simpa [digitsValue, ofDigits, List.foldl_map, digitValue] using h

theorem signText_sign (n : Int) : SignText (signText n) (decide (n < 0)) := by
  unfold signText
  split
  next hn =>
    rw [decide_eq_true hn]
    exact .minus
  next hn =>
    rw [decide_eq_false hn]
    exact .absent

theorem numeral_toString (n : Int) :
    Numeral (toString n).toList (decide (n < 0)) (Nat.toDigits 10 n.natAbs) [] 0 := by
  have hnumeral := Numeral.mk (signText_sign n) (fun c => isDigit_of_mem_toDigits) .absent .absent
    (show Nat.toDigits 10 n.natAbs ++ [] ≠ [] by simp)
  rw [List.append_nil, List.append_nil] at hnumeral
  rwa [toList_toString]

theorem plainChar_of_plain {c : Char} (h : Plain c) : plainChar c = some c := by
  unfold Plain at h
  rw [plainChar, if_pos h.2, if_neg (by omega)]

theorem plainText_of_plain {cs : List Char} (h : ∀ c ∈ cs, Plain c) (hu : '_' ∉ cs) :
    plainText cs = some cs := by
  unfold plainText
  rw [trimChars_eq_self fun c hc => (h c hc).isBlank]
  have hfilter : cs.filter (· ≠ '_') = cs := by
    rw [List.filter_eq_self]
    intro c hc
    have hne : c ≠ '_' := fun heq => hu (heq ▸ hc)
    simp [hne]
  rw [hfilter]
  clear hfilter hu
  induction cs with
  | nil => rfl
  | cons c cs ih =>
    simp [List.mapM_cons, plainChar_of_plain (h c (by simp)), ih fun d hd => h d (by simp [hd])]

theorem plain_of_mem_toString {n : Int} {c : Char} (h : c ∈ (toString n).toList) :
    Plain c ∧ c ≠ '_' := by
  rw [toList_toString, List.mem_append] at h
  rcases h with h | h
  · unfold signText at h
    split at h
    next =>
      obtain rfl := List.mem_singleton.1 h
      exact ⟨⟨by decide, by decide⟩, by decide⟩
    next => cases h
  · have hd := isDigit_of_mem_toDigits h
    exact ⟨plain_of_isDigit hd, ne_of_isDigit hd (by decide)⟩

/-- A written integer is read as that integer. -/
theorem read?_toString {n : Int} (h : n.natAbs < 10 ^ precision) :
    read? (toString n) = some (ofInt n) := by
  have hdigits := (digits_le_iff (by decide)).2 h
  have hplain : plainText (toString n).toList = some (toString n).toList :=
    plainText_of_plain (fun c hc => (plain_of_mem_toString hc).1)
      fun hu => (plain_of_mem_toString hu).2 rfl
  have hadj : adjusted n.natAbs 0 ≤ maxHeldExponent := by
    have hmax : maxHeldExponent = 999999999999999999 := rfl
    have hprec : precision = 28 := rfl
    unfold adjusted
    omega
  have hread := (numeral_toString n).read? hplain (by decide) (by simpa [digitsValue_toDigits] using hadj)
  simpa [digitsValue_toDigits, ofInt] using hread

end Decimal

/-! ## Written quantities -/

namespace Quantity

open Decimal (precision)

def Suffix.chars : Suffix → List Char
  | .none => []
  | .decimal c => [c]
  | .binary c => [c, 'i']

/-- The letter of a suffix is one. -/
def Suffix.Valid : Suffix → Prop
  | .none => True
  | .decimal c | .binary c => isSuffixLetter c = true

theorem isSuffixLetter_of_isDigit {c : Char} (h : c.isDigit = true) : isSuffixLetter c = false := by
  have hne (d : Char) (hd : 57 < d.toNat) : c ≠ d := ne_of_isDigit h (.inr hd)
  have hb := isDigit_bounds h
  unfold isSuffixLetter
  rw [Option.isSome_eq_false_iff, Option.isNone_iff_eq_none]
  unfold decimalFactor?
  split
  all_goals first | rfl | exact absurd rfl (hne _ (by decide))

theorem plain_of_isSuffixLetter {c : Char} (h : isSuffixLetter c = true) : Plain c := by
  unfold isSuffixLetter decimalFactor? at h
  split at h
  all_goals first | exact ⟨by decide, by decide⟩ | cases h

/-- The suffix is split off again. -/
theorem splitSuffix_append {cs : List Char} {c : Char} {s : Suffix} (hc : isSuffixLetter c = false)
    (hi : c ≠ 'i') (hs : s.Valid) : splitSuffix (cs ++ [c] ++ s.chars) = (cs ++ [c], s) := by
  unfold splitSuffix
  cases s with
  | none => simp [Suffix.chars, hc, hi]
  | decimal d =>
    have hd : isSuffixLetter d = true := hs
    have hi : d ≠ 'i' := by
      rintro rfl
      revert hd
      decide
    simp [Suffix.chars, hd, hi]
  | binary d =>
    have hd : isSuffixLetter d = true := hs
    simp [Suffix.chars, hd]

/-- What a suffix makes of the number before it. -/
def applySuffix (quantity : String) (d : Decimal) : Suffix → Except Problem Decimal
  | .none => .ok d
  | .decimal c => scaled quantity d (decimalFactor? c)
  | .binary c => scaled quantity d (binaryFactor? c)

theorem parseText_of_read {quantity : String} {number : List Char} {s : Suffix} {d : Decimal}
    (hsplit : splitSuffix quantity.toList = (number, s))
    (hread : Decimal.read? (String.ofList number) = some d) :
    parseText quantity = applySuffix quantity d s := by
  simp only [parseText, hsplit, hread]
  cases s <;> rfl

theorem splitSuffix_written (n : Int) {s : Suffix} (hs : s.Valid) :
    splitSuffix (toString n ++ String.ofList s.chars).toList = ((toString n).toList, s) := by
  have hlast := List.dropLast_append_getLast (Nat.toDigits_ne_nil (n := n.natAbs) (b := 10))
  -- The text before the suffix ends with a digit.
  have hdigit : ((Nat.toDigits 10 n.natAbs).getLast Nat.toDigits_ne_nil).isDigit = true :=
    isDigit_of_mem_toDigits (List.getLast_mem _)
  rw [String.toList_append, String.toList_ofList, toList_toString, ← hlast, ← List.append_assoc]
  exact splitSuffix_append (isSuffixLetter_of_isDigit hdigit) (ne_of_isDigit hdigit (by decide)) hs

theorem parse_written {n : Int} (h : n.natAbs < 10 ^ precision) {s : Suffix} (hs : s.Valid) :
    parse (.text (toString n ++ String.ofList s.chars)) =
      applySuffix (toString n ++ String.ofList s.chars) (.ofInt n) s := by
  have hchars : (toString n ++ String.ofList s.chars).toList = (toString n).toList ++ s.chars := by
    simp
  have hblank : ∀ c ∈ (toString n ++ String.ofList s.chars).toList, isBlank c = false := by
    intro c hc
    rw [hchars, List.mem_append] at hc
    rcases hc with hc | hc
    · exact (Decimal.plain_of_mem_toString hc).1.isBlank
    · apply Plain.isBlank
      cases s with
      | none => cases hc
      | decimal d =>
        obtain rfl := List.mem_singleton.1 hc
        exact plain_of_isSuffixLetter hs
      | binary d =>
        simp only [Suffix.chars, List.mem_cons, List.not_mem_nil, or_false] at hc
        rcases hc with rfl | rfl
        · exact plain_of_isSuffixLetter hs
        · exact ⟨by decide, by decide⟩
  have hnonblank : isBlankText (toString n ++ String.ofList s.chars) = false := by
    have hmem : (Nat.toDigits 10 n.natAbs).getLast Nat.toDigits_ne_nil ∈
        (toString n ++ String.ofList s.chars).toList := by
      rw [hchars, toList_toString]
      simp [List.getLast_mem]
    rw [isBlankText, List.all_eq_false]
    exact ⟨_, hmem, by simp [hblank _ hmem]⟩
  have htrim : trim (toString n ++ String.ofList s.chars) = toString n ++ String.ofList s.chars := by
    rw [trim, trimChars_eq_self hblank, String.ofList_toList]
  rw [parse, hnonblank, if_neg Bool.false_ne_true, htrim]
  exact parseText_of_read (splitSuffix_written n hs) (by rw [String.ofList_toList, Decimal.read?_toString h])

/-- A number times the factor of its suffix is exact if it has at most 28 digits. -/
theorem scaled_exact {quantity : String} {n : Int} {factor : Nat} {e : Int}
    (h : n.natAbs * factor < 10 ^ precision) (he : Decimal.tinyExponent ≤ e) (he' : e ≤ 0) :
    scaled quantity (.ofInt n) (some (.finite false factor e)) =
      .ok (.finite (decide (n < 0)) (n.natAbs * factor) e) := by
  have hdigits := (Decimal.digits_le_iff (by decide)).2 h
  have hadj : Decimal.adjusted (n.natAbs * factor) e ≤ Decimal.maxExponent := by
    have hprec : precision = 28 := rfl
    have hmax : Decimal.maxExponent = 999999 := rfl
    unfold Decimal.adjusted
    omega
  have hfit := Decimal.fit_exact (decide (n < 0)) hdigits he hadj
  simp [scaled, Decimal.ofInt, Decimal.mul, hfit]

theorem finite_size (n : Int) (factor : Nat) (e : Int) :
    (Decimal.finite (decide (n < 0)) (n.natAbs * factor) e).size? =
      some (((n : ℚ) * Decimal.magnitude factor e : ℚ) : Decimal.Size) := by
  have hmul : Decimal.magnitude (n.natAbs * factor) e = n.natAbs * Decimal.magnitude factor e := by
    unfold Decimal.magnitude
    push_cast
    ring
  rw [Decimal.size?, hmul, Decimal.signed_natAbs]

/-- A written integer without a suffix. -/
theorem parse_toString {n : Int} (h : n.natAbs < 10 ^ precision) :
    parse (.text (toString n)) = .ok (.ofInt n) := by
  have hparse := parse_written h (s := .none) trivial
  rwa [show toString n ++ String.ofList Suffix.none.chars = toString n from String.append_empty] at hparse

/-- A written processor quantity is read back as it was. -/
theorem parse_formatCpu {n : Int} (h : n.natAbs < 10 ^ precision) :
    ∃ d, parse (.text (formatCpu n)) = .ok d ∧ d.size? = some (((n : ℚ) / 1000 : ℚ) : Decimal.Size) := by
  have hmillis : (millisPerCore : Int) = 1000 := rfl
  unfold formatCpu
  rw [hmillis]
  split
  next hcores =>
    refine ⟨_, parse_toString (by omega), ?_⟩
    have hn : (n : ℚ) = 1000 * (n / 1000 : Int) := by
      have hmul : n = 1000 * (n / 1000) := by omega
      exact_mod_cast hmul
    rw [Decimal.ofInt_size, hn]
    norm_num
  next =>
    have hparse := parse_written h (s := .decimal 'm') rfl
    have hexact : scaled (toString n ++ "m") (.ofInt n) (some (.finite false 1 (-3))) = _ :=
      scaled_exact (by omega) (by decide) (by decide)
    refine ⟨_, hparse.trans hexact, ?_⟩
    rw [finite_size]
    norm_num [Decimal.magnitude, div_eq_mul_inv]

/-- The binary suffixes are those that the reader knows. -/
theorem binarySuffixes_spec {s : String × Nat} (h : s ∈ binarySuffixes) :
    ∃ c, s.1 = String.ofList (Suffix.binary c).chars ∧ (Suffix.binary c).Valid ∧
      binaryFactor? c = some (.finite false s.2 0) := by
  simp only [binarySuffixes, List.mem_cons, List.not_mem_nil, or_false] at h
  rcases h with rfl | rfl | rfl | rfl | rfl | rfl
  all_goals exact ⟨_, rfl, rfl, rfl⟩

/-- A written memory quantity is read back as it was. -/
theorem parse_formatMemory {n : Int} (h : n.natAbs < 10 ^ precision) :
    ∃ d, parse (.text (formatMemory n)) = .ok d ∧ d.size? = some ((n : ℚ) : Decimal.Size) := by
  unfold formatMemory
  split
  next hzero =>
    subst hzero
    exact ⟨_, parse_toString (n := 0) h, Decimal.ofInt_size 0⟩
  next =>
    split
    next suffix factor hfind =>
      obtain ⟨c, hsuffix, hc, hfactor⟩ := binarySuffixes_spec (List.mem_of_find?_eq_some hfind)
      dsimp only at hsuffix hfactor
      subst hsuffix
      have hdvd : n % factor = 0 := by simpa using List.find?_some hfind
      have hn : n / factor * factor = n := Int.ediv_mul_cancel (Int.dvd_of_emod_eq_zero hdvd)
      have habs : (n / factor).natAbs * factor = n.natAbs := by
        conv_rhs => rw [← hn]
        rw [Int.natAbs_mul, Int.natAbs_natCast]
      have hle := Int.natAbs_ediv_le_natAbs n factor
      have hparse := parse_written (n := n / factor) (by omega) (s := .binary c) hc
      have hexact : scaled (toString (n / factor) ++ String.ofList [c, 'i']) (.ofInt (n / factor))
          (some (.finite false factor 0)) = _ := scaled_exact (by rwa [habs]) (by decide) (by decide)
      rw [← hfactor] at hexact
      refine ⟨_, hparse.trans hexact, ?_⟩
      rw [finite_size, Decimal.magnitude_natCast]
      congr 3
      exact_mod_cast hn
    next => exact ⟨_, parse_toString h, Decimal.ofInt_size n⟩

end Quantity

end FlowWarden
