import FlowWarden.Decimal.Reader
import FlowWarden.Proofs.Decimal.Rounding
import Mathlib.Data.List.Induction
import Mathlib.Data.List.TakeWhile
import Mathlib.Tactic.FieldSimp
/-!
# Written numbers

`Numeral` is the grammar of decimal numbers: a sign, digits with a point somewhere, and an exponent.
`Spells s x` says that a text writes the rational number `x` by it. Reading a text gives a finite
number just if the text writes one, and then exactly that number: `spells_iff`.
-/

namespace FlowWarden

open Text

/-! ## Characters -/

theorem isDigit_bounds {c : Char} (h : c.isDigit = true) : 48 ≤ c.toNat ∧ c.toNat ≤ 57 := by
  simp only [Char.isDigit, Bool.and_eq_true, decide_eq_true_eq, ge_iff_le] at h
  exact h

/-- A digit is none of the characters outside of the digits' range. -/
theorem ne_of_isDigit {c d : Char} (h : c.isDigit = true) (hd : d.toNat < 48 ∨ 57 < d.toNat) :
    c ≠ d := by
  have hb := isDigit_bounds h
  rintro rfl
  omega

theorem toLower_of_isDigit {c : Char} (h : c.isDigit = true) : c.toLower = c := by
  have hb := isDigit_bounds h
  unfold Char.toLower
  rw [dif_neg]
  intro hup
  have hge : 65 ≤ c.toNat := hup.1
  omega

/-- A list of characters that does not begin with a digit. -/
def Undigited (cs : List Char) : Prop :=
  ∀ c ds, cs = c :: ds → c.isDigit = false

theorem takeWhile_digits {ds cs : List Char} (h : ∀ c ∈ ds, c.isDigit = true) (hcs : Undigited cs) :
    (ds ++ cs).takeWhile Char.isDigit = ds := by
  rw [List.takeWhile_append_of_pos h]
  cases cs with
  | nil => simp
  | cons c cs => simp [hcs c cs rfl]

theorem dropWhile_digits {ds cs : List Char} (h : ∀ c ∈ ds, c.isDigit = true) (hcs : Undigited cs) :
    (ds ++ cs).dropWhile Char.isDigit = cs := by
  rw [List.dropWhile_append_of_pos h]
  cases cs with
  | nil => simp
  | cons c cs => simp [hcs c cs rfl]

/-- A number ends with a digit or with the point. -/
def Closing (c : Char) : Prop :=
  c.isDigit = true ∨ c = '.'

namespace Decimal

/-! ## The parts of a number -/

/-- The characters of a sign, and whether it is a minus. -/
inductive SignText : List Char → Bool → Prop
  | absent : SignText [] false
  | plus : SignText ['+'] false
  | minus : SignText ['-'] true

/-- The characters of a point with the digits behind it, and these digits. -/
inductive PointText : List Char → List Char → Prop
  | absent : PointText [] []
  | present {ds} : (∀ c ∈ ds, c.isDigit = true) → PointText ('.' :: ds) ds

/-- The characters of an exponent, and its value. -/
inductive PowerText : List Char → Int → Prop
  | absent : PowerText [] 0
  | present {mark sign negative ds} : mark = 'e' ∨ mark = 'E' → SignText sign negative → ds ≠ [] →
      (∀ c ∈ ds, c.isDigit = true) →
      PowerText (mark :: (sign ++ ds)) (if negative then -(digitsValue ds : Int) else digitsValue ds)

/-- The characters of a number: its sign, the digits before the point and behind it, and its
exponent. -/
inductive Numeral : List Char → Bool → List Char → List Char → Int → Prop
  | mk {sign negative whole point fraction power e} : SignText sign negative →
      (∀ c ∈ whole, c.isDigit = true) → PointText point fraction → PowerText power e →
      whole ++ fraction ≠ [] →
      Numeral (sign ++ (whole ++ (point ++ power))) negative whole fraction e

/-- A text writes a number, by characters that were brought to their plain form. Its exponent must
not go beyond what can be held. -/
inductive Spells (s : String) : ℚ → Prop
  | mk {cs negative whole fraction e} : plainText s.toList = some cs →
      Numeral cs negative whole fraction e → minHeldExponent ≤ e - fraction.length →
      adjusted (digitsValue (whole ++ fraction)) (e - fraction.length) ≤ maxHeldExponent →
      Spells s (signed negative
        ((digitsValue whole + digitsValue fraction / 10 ^ fraction.length) * 10 ^ e))

/-! ## Signs and exponents -/

theorem splitSign_append {sign cs : List Char} {negative : Bool} (h : SignText sign negative)
    (hcs : ∀ c ds, cs = c :: ds → c ≠ '-' ∧ c ≠ '+') : splitSign (sign ++ cs) = (negative, cs) := by
  cases h with
  | absent =>
    rw [List.nil_append]
    unfold splitSign
    split
    next => exact absurd rfl (hcs _ _ rfl).1
    next => exact absurd rfl (hcs _ _ rfl).2
    next => rfl
  | plus => rfl
  | minus => rfl

theorem splitSign_digits {sign ds : List Char} {negative : Bool} (h : SignText sign negative)
    (hds : ∀ c ∈ ds, c.isDigit = true) : splitSign (sign ++ ds) = (negative, ds) := by
  apply splitSign_append h
  rintro c ds' rfl
  have hc := hds c List.mem_cons_self
  exact ⟨ne_of_isDigit hc (by decide), ne_of_isDigit hc (by decide)⟩

theorem signText_of_splitSign {cs ds : List Char} {negative : Bool}
    (h : splitSign cs = (negative, ds)) : ∃ sign, SignText sign negative ∧ cs = sign ++ ds := by
  unfold splitSign at h
  split at h
  all_goals
    obtain ⟨rfl, rfl⟩ := Prod.mk.inj h
  · exact ⟨_, .minus, rfl⟩
  · exact ⟨_, .plus, rfl⟩
  · exact ⟨_, .absent, rfl⟩

theorem readExponent_cons (c : Char) (cs : List Char) :
    readExponent (c :: cs) =
      if c = 'e' ∨ c = 'E' then
        if ((splitSign cs).2.isEmpty || !(splitSign cs).2.all Char.isDigit) = true then none
        else some (if (splitSign cs).1 then -(digitsValue (splitSign cs).2 : Int)
          else digitsValue (splitSign cs).2)
      else none := rfl

theorem some_digits_iff {ds : List Char} :
    ¬ (ds.isEmpty || !ds.all Char.isDigit) = true ↔ ds ≠ [] ∧ ∀ c ∈ ds, c.isDigit = true := by
  rw [Bool.or_eq_true, not_or, List.isEmpty_iff, Bool.not_eq_true', Bool.not_eq_false, List.all_eq_true]

theorem readExponent_iff {cs : List Char} {e : Int} :
    readExponent cs = some e ↔ PowerText cs e := by
  constructor
  · intro h
    cases cs with
    | nil =>
      obtain rfl := Option.some.inj h
      exact .absent
    | cons c cs =>
      rw [readExponent_cons] at h
      split at h
      next hmark =>
        split at h
        next => cases h
        next hds =>
          obtain rfl := Option.some.inj h
          obtain ⟨hne, hdigits⟩ := some_digits_iff.1 hds
          obtain ⟨sign, hsign, hcs⟩ := signText_of_splitSign (Prod.eta (splitSign cs)).symm
          have hpower := PowerText.present hmark hsign hne hdigits
          rwa [← hcs] at hpower
      next => cases h
  · intro h
    cases h with
    | absent => rfl
    | @present mark sign negative ds hmark hsign hne hds =>
      rw [readExponent_cons, if_pos hmark, splitSign_digits hsign hds,
        if_neg (some_digits_iff.2 ⟨hne, hds⟩)]

/-! ## Numbers without their sign -/

theorem PowerText.undigited {cs : List Char} {e : Int} (h : PowerText cs e) : Undigited cs := by
  intro c ds heq
  cases h with
  | absent => cases heq
  | present hmark =>
    obtain ⟨rfl, -⟩ := List.cons.inj heq
    rcases hmark with rfl | rfl <;> rfl

theorem PointText.undigited {point fraction power : List Char} {e : Int}
    (h : PointText point fraction) (hpower : PowerText power e) : Undigited (point ++ power) := by
  cases h with
  | absent => exact hpower.undigited
  | present =>
    intro c ds heq
    obtain ⟨rfl, -⟩ := List.cons.inj heq
    rfl

theorem splitPoint_append {point fraction power : List Char} {e : Int}
    (h : PointText point fraction) (hpower : PowerText power e) :
    splitPoint (point ++ power) = (fraction, power) := by
  cases h with
  | absent =>
    cases hpower with
    | absent => rfl
    | present hmark => rcases hmark with rfl | rfl <;> rfl
  | present hds =>
    have htake := takeWhile_digits hds hpower.undigited
    have hdrop := dropWhile_digits hds hpower.undigited
    simp [splitPoint, htake, hdrop]

theorem pointText_of_splitPoint {cs fraction rest : List Char}
    (h : splitPoint cs = (fraction, rest)) :
    ∃ point, PointText point fraction ∧ cs = point ++ rest := by
  unfold splitPoint at h
  split at h
  next ds =>
    obtain ⟨rfl, rfl⟩ := Prod.mk.inj h
    have hds : ∀ c ∈ ds.takeWhile Char.isDigit, c.isDigit = true := fun c => List.mem_takeWhile_imp
    exact ⟨_, .present hds, by simp [List.takeWhile_append_dropWhile]⟩
  next =>
    obtain ⟨rfl, rfl⟩ := Prod.mk.inj h
    exact ⟨[], .absent, rfl⟩

theorem readNumeral_eq (cs : List Char) :
    readNumeral cs =
      let whole := cs.takeWhile Char.isDigit
      let fraction := (splitPoint (cs.dropWhile Char.isDigit)).1
      if (whole.isEmpty && fraction.isEmpty) = true then none
      else (readExponent (splitPoint (cs.dropWhile Char.isDigit)).2).bind fun e =>
        some (digitsValue (whole ++ fraction), e - fraction.length) := rfl

theorem readNumeral_eq_some {whole point fraction power : List Char} {e : Int}
    (hwhole : ∀ c ∈ whole, c.isDigit = true) (hpoint : PointText point fraction)
    (hpower : PowerText power e) (hne : whole ++ fraction ≠ []) :
    readNumeral (whole ++ (point ++ power)) =
      some (digitsValue (whole ++ fraction), e - fraction.length) := by
  have hsome : ¬ (whole.isEmpty && fraction.isEmpty) = true := by
    simpa using hne
  rw [readNumeral_eq, takeWhile_digits hwhole (hpoint.undigited hpower),
    dropWhile_digits hwhole (hpoint.undigited hpower), splitPoint_append hpoint hpower]
  dsimp only
  rw [if_neg hsome, readExponent_iff.2 hpower, Option.bind_some]

theorem of_readNumeral {cs : List Char} {n : Nat} {f : Int} (h : readNumeral cs = some (n, f)) :
    ∃ whole point fraction power e, cs = whole ++ (point ++ power) ∧
      (∀ c ∈ whole, c.isDigit = true) ∧ PointText point fraction ∧ PowerText power e ∧
      whole ++ fraction ≠ [] ∧ n = digitsValue (whole ++ fraction) ∧ f = e - fraction.length := by
  rw [readNumeral_eq] at h
  dsimp only at h
  obtain ⟨point, hpoint, hrest⟩ :=
    pointText_of_splitPoint (Prod.eta (splitPoint (cs.dropWhile Char.isDigit))).symm
  split at h
  next => cases h
  next hsome =>
    obtain ⟨e, he, h⟩ := Option.bind_eq_some_iff.1 h
    obtain ⟨rfl, rfl⟩ := Prod.mk.inj (Option.some.inj h)
    refine ⟨_, point, _, _, e, ?_, fun c => List.mem_takeWhile_imp, hpoint, readExponent_iff.1 he,
      by simpa using hsome, rfl, rfl⟩
    rw [← hrest, List.takeWhile_append_dropWhile]

theorem not_beyond_iff {n : Nat} {f : Int} :
    ¬ (f < minHeldExponent ∨ maxHeldExponent < adjusted n f) ↔
      minHeldExponent ≤ f ∧ adjusted n f ≤ maxHeldExponent := by
  rw [not_or, not_lt, not_lt]

theorem readFinite_eq_some_iff (negative : Bool) {cs : List Char} {d : Decimal} :
    readFinite negative cs = some d ↔ ∃ n f, readNumeral cs = some (n, f) ∧
      (minHeldExponent ≤ f ∧ adjusted n f ≤ maxHeldExponent) ∧ d = .finite negative n f := by
  unfold readFinite
  simp only [Option.bind_eq_bind, Option.bind_eq_some_iff, Prod.exists, ← not_beyond_iff]
  refine exists_congr fun n => exists_congr fun f => and_congr_right fun _ => ?_
  split <;> simp [*, eq_comm]

/-! ## Whole texts -/

theorem readUnsigned_of_head {negative : Bool} {c : Char} {cs : List Char}
    (h : c.isDigit = true ∨ c = '.') : readUnsigned negative (c :: cs) = readFinite negative (c :: cs) := by
  have hlower : c.toLower = c := by
    rcases h with hc | rfl
    · exact toLower_of_isDigit hc
    · rfl
  have hne (d : Char) (hd : 57 < d.toNat) : c ≠ d := by
    rcases h with hc | rfl
    · exact ne_of_isDigit hc (.inr hd)
    · rintro rfl
      revert hd
      decide
  unfold readUnsigned
  rw [List.map_cons, hlower]
  -- None of the words begins with a digit or a point.
  split
  next heq => exact absurd (List.cons.inj heq).1 (hne _ (by decide))
  next heq => exact absurd (List.cons.inj heq).1 (hne _ (by decide))
  next heq => exact absurd (List.cons.inj heq).1 (hne _ (by decide))
  next heq => exact absurd (List.cons.inj heq).1 (hne _ (by decide))
  next => rfl

/-- A number without its sign begins with a digit or with the point. -/
theorem Numeral.head {whole point fraction : List Char} (hwhole : ∀ c ∈ whole, c.isDigit = true)
    (hpoint : PointText point fraction) (hne : whole ++ fraction ≠ []) (power : List Char) :
    ∃ c cs, whole ++ (point ++ power) = c :: cs ∧ (c.isDigit = true ∨ c = '.') := by
  cases whole with
  | cons c cs => exact ⟨c, _, rfl, .inl (hwhole c List.mem_cons_self)⟩
  | nil =>
    cases hpoint with
    | absent => exact absurd rfl hne
    | present => exact ⟨'.', _, rfl, .inr rfl⟩

theorem Numeral.read? {s : String} {cs whole fraction : List Char} {negative : Bool} {e : Int}
    (h : Numeral cs negative whole fraction e) (hs : plainText s.toList = some cs)
    (hlow : minHeldExponent ≤ e - fraction.length)
    (hhigh : adjusted (digitsValue (whole ++ fraction)) (e - fraction.length) ≤ maxHeldExponent) :
    Decimal.read? s = some (.finite negative (digitsValue (whole ++ fraction)) (e - fraction.length)) := by
  cases h with
  | @mk sign _ _ point _ power _ hsign hwhole hpoint hpower hne =>
    obtain ⟨c, ds, hcons, hc⟩ := Numeral.head hwhole hpoint hne power
    have hsplit : splitSign (sign ++ (whole ++ (point ++ power))) =
        (negative, whole ++ (point ++ power)) := by
      apply splitSign_append hsign
      intro c' ds' hcons'
      obtain ⟨rfl, -⟩ := List.cons.inj (hcons.symm.trans hcons')
      rcases hc with hc | rfl
      · exact ⟨ne_of_isDigit hc (by decide), ne_of_isDigit hc (by decide)⟩
      · exact ⟨by decide, by decide⟩
    have hread := readNumeral_eq_some hwhole hpoint hpower hne
    have hfinite := (readFinite_eq_some_iff negative).2 ⟨_, _, hread, ⟨hlow, hhigh⟩, rfl⟩
    unfold Decimal.read?
    rw [hs]
    simp only [Option.bind_eq_bind, Option.bind_some, hsplit]
    rw [hcons, readUnsigned_of_head hc, ← hcons, hfinite]

/-- Only digits with a point and an exponent are read as a finite number. -/
theorem readFinite_of_readUnsigned {negative n : Bool} {cs : List Char} {c : Nat} {f : Int}
    (h : readUnsigned negative cs = some (.finite n c f)) :
    readFinite negative cs = some (.finite n c f) := by
  have hpayload (signaling : Bool) (ds : List Char) :
      readPayload negative signaling ds ≠ some (.finite n c f) := by
    unfold readPayload
    split <;> simp
  unfold readUnsigned at h
  split at h
  next => exact absurd h (hpayload _ _)
  next => exact absurd h (hpayload _ _)
  next => cases h
  next => cases h
  next => exact h

theorem exists_numeral {s : String} {n : Bool} {c : Nat} {f : Int}
    (h : read? s = some (.finite n c f)) :
    ∃ cs whole fraction e, plainText s.toList = some cs ∧ Numeral cs n whole fraction e ∧
      minHeldExponent ≤ e - fraction.length ∧
      adjusted (digitsValue (whole ++ fraction)) (e - fraction.length) ≤ maxHeldExponent ∧
      c = digitsValue (whole ++ fraction) ∧ f = e - fraction.length := by
  unfold read? at h
  obtain ⟨cs, hcs, h⟩ := Option.bind_eq_some_iff.1 h
  obtain ⟨⟨negative, ds⟩, hsplit⟩ : ∃ p, splitSign cs = p := ⟨_, rfl⟩
  obtain ⟨sign, hsign, rfl⟩ := signText_of_splitSign hsplit
  rw [hsplit] at h
  obtain ⟨_, _, hread, ⟨hlow, hhigh⟩, hd⟩ :=
    (readFinite_eq_some_iff negative).1 (readFinite_of_readUnsigned h)
  obtain ⟨whole, point, fraction, power, e, rfl, hwhole, hpoint, hpower, hne, rfl, rfl⟩ :=
    of_readNumeral hread
  obtain ⟨rfl, rfl, rfl⟩ := Decimal.finite.inj hd
  exact ⟨_, whole, fraction, e, hcs, .mk hsign hwhole hpoint hpower hne, hlow, hhigh, rfl, rfl⟩

/-! ## How a number ends -/

theorem exists_last_digit {ds : List Char} (hne : ds ≠ []) (h : ∀ c ∈ ds, c.isDigit = true) :
    ∃ es c, ds = es ++ [c] ∧ c.isDigit = true := by
  rcases List.eq_nil_or_concat' ds with rfl | ⟨es, c, rfl⟩
  · exact absurd rfl hne
  · exact ⟨es, c, rfl, h c (by simp)⟩

theorem PowerText.last {power : List Char} {e : Int} (h : PowerText power e) :
    power = [] ∨ ∃ es c, power = es ++ [c] ∧ Closing c := by
  cases h with
  | absent => exact .inl rfl
  | @present mark sign _ ds _ _ hne hds =>
    obtain ⟨es, c, rfl, hc⟩ := exists_last_digit hne hds
    exact .inr ⟨mark :: (sign ++ es), c, by simp, .inl hc⟩

theorem PointText.last {point fraction : List Char} (h : PointText point fraction) :
    point = [] ∧ fraction = [] ∨ ∃ es c, point = es ++ [c] ∧ Closing c := by
  cases h with
  | absent => exact .inl ⟨rfl, rfl⟩
  | present hds =>
    right
    by_cases hne : fraction = []
    · subst hne
      exact ⟨[], '.', rfl, .inr rfl⟩
    · obtain ⟨es, c, rfl, hc⟩ := exists_last_digit hne hds
      exact ⟨'.' :: es, c, rfl, .inl hc⟩

theorem Numeral.last {cs whole fraction : List Char} {negative : Bool} {e : Int}
    (h : Numeral cs negative whole fraction e) : ∃ es c, cs = es ++ [c] ∧ Closing c := by
  cases h with
  | @mk sign _ _ point _ power _ hsign hwhole hpoint hpower hne =>
    rcases hpower.last with rfl | ⟨es, c, rfl, hc⟩
    · rcases hpoint.last with ⟨rfl, rfl⟩ | ⟨es, c, rfl, hc⟩
      · have hdigits : whole ≠ [] := by simpa using hne
        obtain ⟨es, c, rfl, hc⟩ := exists_last_digit hdigits hwhole
        exact ⟨sign ++ es, c, by simp, .inl hc⟩
      · exact ⟨sign ++ (whole ++ es), c, by simp, hc⟩
    · exact ⟨sign ++ (whole ++ (point ++ es)), c, by simp, hc⟩

/-! ## The number that a text writes -/

theorem digitsValue_append (ds es : List Char) :
    digitsValue (ds ++ es) = digitsValue ds * 10 ^ es.length + digitsValue es := by
  induction es using List.reverseRecOn with
  | nil => simp [digitsValue, ofDigits]
  | append_singleton es c ih =>
    simp only [digitsValue, List.map_append, List.map_singleton] at ih ⊢
    rw [← List.append_assoc, ofDigits_snoc, ofDigits_snoc, ih, List.length_append, List.length_singleton,
      pow_succ]
    ring

/-- The digits behind the point count as tenths, hundredths and so on. -/
theorem magnitude_digits (whole fraction : List Char) (e : Int) :
    magnitude (digitsValue (whole ++ fraction)) (e - fraction.length) =
      (digitsValue whole + digitsValue fraction / 10 ^ fraction.length) * 10 ^ e := by
  have hten : (10 : ℚ) ≠ 0 := by norm_num
  rw [magnitude, digitsValue_append, zpow_sub₀ hten, zpow_natCast]
  push_cast
  field_simp

/-- A text is read as a finite number just if it writes one, and as the number that it writes. -/
theorem spells_iff {s : String} {x : ℚ} :
    Spells s x ↔ ∃ d, read? s = some d ∧ d.size? = some (x : Size) := by
  constructor
  · rintro ⟨hs, hnumeral, hlow, hhigh⟩
    refine ⟨_, hnumeral.read? hs hlow hhigh, ?_⟩
    rw [size?, magnitude_digits]
  · rintro ⟨d, hd, hx⟩
    obtain ⟨n, c, f, rfl, rfl⟩ := size?_eq_coe hx
    obtain ⟨cs, whole, fraction, e, hcs, hnumeral, hlow, hhigh, rfl, rfl⟩ := exists_numeral hd
    rw [magnitude_digits]
    exact .mk hcs hnumeral hlow hhigh

theorem Spells.read? {s : String} {x : ℚ} (h : Spells s x) :
    ∃ d, Decimal.read? s = some d ∧ d.size? = some (x : Size) :=
  spells_iff.1 h

end Decimal

end FlowWarden
