import FlowWarden.Proofs.Decimal.Limits
import FlowWarden.Proofs.Quantity.Written
/-!
# What a quantity is worth

`Worth` says which rational number a quantity stands for: the number that its text writes, times
the power of 1000 or 1024 that its suffix stands for. `Stands` says it of a headroom factor. Reading
gives these numbers exactly where they are representable (`Worth.parse`), and a factor is accepted
just if it stands for a number that is not below zero (`multiplier_cases`).
-/

namespace FlowWarden

open Text

namespace Decimal

/-- The last character is kept, unless it is a blank or an underscore. -/
theorem plainText_append {cs ds : List Char} {c : Char} (hc : Plain c) (hu : c ≠ '_')
    (h : plainText (cs ++ [c]) = some ds) : ∃ es, ds = es ++ [c] := by
  obtain ⟨es, htrim⟩ : ∃ es, trimChars (cs ++ [c]) = es ++ [c] := by
    unfold trimChars
    rw [List.dropWhile_append]
    split
    next => exact ⟨[], by simp [hc.isBlank]⟩
    next => exact ⟨cs.dropWhile isBlank, by simp [hc.isBlank]⟩
  have hfilter : [c].filter (· ≠ '_') = [c] := by simp [hu]
  unfold plainText at h
  rw [htrim, List.filter_append, hfilter, List.mapM_append] at h
  simp only [Option.bind_eq_bind, Option.bind_eq_some_iff] at h
  obtain ⟨fs, -, gs, hgs, h⟩ := h
  obtain rfl : [c] = gs := by simpa [plainChar_of_plain hc] using hgs
  exact ⟨fs, (Option.some.inj h).symm⟩

theorem Spells.last {cs : List Char} {c : Char} {x : ℚ} (h : Spells (String.ofList (cs ++ [c])) x)
    (hc : Plain c) (hu : c ≠ '_') : Closing c := by
  rcases h with ⟨hs, hnumeral, -, -⟩
  rw [String.toList_ofList] at hs
  obtain ⟨es, rfl⟩ := plainText_append hc hu hs
  obtain ⟨fs, c', heq, hc'⟩ := hnumeral.last
  obtain ⟨-, hlast⟩ := List.append_inj' heq rfl
  obtain rfl := List.singleton_injective hlast
  exact hc'

theorem not_spells_empty (x : ℚ) : ¬ Spells "" x := by
  rintro ⟨hs, hnumeral, -, -⟩
  obtain rfl := Option.some.inj hs
  obtain ⟨es, c, heq, -⟩ := hnumeral.last
  simp at heq

end Decimal

namespace Quantity

open Decimal (Size Spells Representable magnitude signed)

/-! ## Suffixes -/

/-- The power of 1000 or of 1024 that a suffix stands for. -/
def Suffix.factor? : Suffix → Option ℚ
  | .none => some 1
  | .decimal 'n' => some (1 / 1000 ^ 3)
  | .decimal 'u' => some (1 / 1000 ^ 2)
  | .decimal 'm' => some (1 / 1000)
  | .decimal 'k' | .decimal 'K' => some 1000
  | .decimal 'M' => some (1000 ^ 2)
  | .decimal 'G' => some (1000 ^ 3)
  | .decimal 'T' => some (1000 ^ 4)
  | .decimal 'P' => some (1000 ^ 5)
  | .decimal 'E' => some (1000 ^ 6)
  | .decimal _ => Option.none
  | .binary 'K' => some 1024
  | .binary 'M' => some (1024 ^ 2)
  | .binary 'G' => some (1024 ^ 3)
  | .binary 'T' => some (1024 ^ 4)
  | .binary 'P' => some (1024 ^ 5)
  | .binary 'E' => some (1024 ^ 6)
  | .binary _ => Option.none

theorem decimalFactor?_size {c : Char} {g : Decimal} (h : decimalFactor? c = some g) :
    ∃ f, (Suffix.decimal c).factor? = some f ∧ g.size? = some (f : Size) := by
  unfold decimalFactor? at h
  split at h
  all_goals
    cases h
  all_goals
    refine ⟨_, rfl, ?_⟩
    first
    | rw [Decimal.ofInt_size]
      norm_num [kilo]
    | norm_num [Decimal.size?, magnitude, signed]

theorem binaryFactor?_size {c : Char} {g : Decimal} (h : binaryFactor? c = some g) :
    ∃ f, (Suffix.binary c).factor? = some f ∧ g.size? = some (f : Size) := by
  unfold binaryFactor? at h
  split at h
  all_goals
    cases h
  all_goals
    refine ⟨_, rfl, ?_⟩
    norm_num [Decimal.ofInt_size, kibi]

/-- Only the letters that the reader knows stand for a power. -/
theorem Suffix.isSome_factor? (s : Suffix) :
    s.factor?.isSome = match s with
      | .none => true
      | .decimal c => (decimalFactor? c).isSome
      | .binary c => (binaryFactor? c).isSome := by
  unfold factor? decimalFactor? binaryFactor?
  split <;> simp_all

theorem isSuffixLetter_of_binary {c : Char} (h : (binaryFactor? c).isSome = true) :
    isSuffixLetter c = true := by
  unfold binaryFactor? at h
  split at h
  all_goals first | rfl | cases h

/-- A suffix that stands for a power has a letter that is one. -/
theorem Suffix.valid_of_factor? {s : Suffix} {f : ℚ} (h : s.factor? = some f) : s.Valid := by
  have hsome := s.isSome_factor?
  rw [h, Option.isSome_some] at hsome
  cases s with
  | none => trivial
  | decimal c => exact hsome.symm
  | binary c => exact isSuffixLetter_of_binary hsome.symm

/-- The reader multiplies by the power that the suffix stands for. -/
theorem applySuffix_of_factor? {s : Suffix} {f : ℚ} (quantity : String) (d : Decimal)
    (h : s.factor? = some f) :
    s = .none ∧ f = 1 ∨
      ∃ g, g.size? = some (f : Size) ∧ applySuffix quantity d s = scaled quantity d (some g) := by
  have hsome := s.isSome_factor?
  rw [h, Option.isSome_some] at hsome
  cases s with
  | none => exact .inl ⟨rfl, (Option.some.inj h).symm⟩
  | decimal c =>
    obtain ⟨g, hg⟩ := Option.isSome_iff_exists.1 hsome.symm
    obtain ⟨f', hf', hsize⟩ := decimalFactor?_size hg
    obtain rfl := Option.some.inj (h.symm.trans hf')
    exact .inr ⟨g, hsize, by rw [applySuffix, hg]⟩
  | binary c =>
    obtain ⟨g, hg⟩ := Option.isSome_iff_exists.1 hsome.symm
    obtain ⟨f', hf', hsize⟩ := binaryFactor?_size hg
    obtain rfl := Option.some.inj (h.symm.trans hf')
    exact .inr ⟨g, hsize, by rw [applySuffix, hg]⟩

theorem chars_of_splitSuffix {cs number : List Char} {s : Suffix} (h : splitSuffix cs = (number, s)) :
    cs = number ++ s.chars := by
  unfold splitSuffix at h
  split at h
  next c rest heq =>
    have hcs : cs = rest.reverse ++ [c, 'i'] := by
      rw [← List.reverse_reverse cs, heq]
      simp
    split at h
    all_goals
      obtain ⟨rfl, rfl⟩ := Prod.mk.inj h
      simp [Suffix.chars, hcs]
  next c rest _ heq =>
    have hcs : cs = rest.reverse ++ [c] := by
      rw [← List.reverse_reverse cs, heq]
      simp
    split at h
    all_goals
      obtain ⟨rfl, rfl⟩ := Prod.mk.inj h
      simp [Suffix.chars, hcs]
  next =>
    obtain ⟨rfl, rfl⟩ := Prod.mk.inj h
    simp [Suffix.chars]

/-- No number ends like a suffix. -/
theorem not_suffix_of_spells {cs : List Char} {x : ℚ} (h : Spells (String.ofList cs) x) :
    ∃ ds c, cs = ds ++ [c] ∧ isSuffixLetter c = false ∧ c ≠ 'i' := by
  rcases List.eq_nil_or_concat' cs with rfl | ⟨ds, c, rfl⟩
  · exact absurd h (Decimal.not_spells_empty x)
  · refine ⟨ds, c, rfl, ?_, ?_⟩
    · by_contra hletter
      rw [Bool.not_eq_false] at hletter
      have hu : c ≠ '_' := by
        rintro rfl
        revert hletter
        decide
      rcases h.last (plain_of_isSuffixLetter hletter) hu with hdigit | rfl
      · rw [isSuffixLetter_of_isDigit hdigit] at hletter
        cases hletter
      · revert hletter
        decide
    · rintro rfl
      rcases h.last ⟨by decide, by decide⟩ (by decide) with hdigit | hpoint
      · exact absurd rfl (ne_of_isDigit hdigit (d := 'i') (by decide))
      · exact absurd hpoint (by decide)

theorem splitSuffix_of_spells {number : List Char} {s : Suffix} {y f : ℚ}
    (hnumber : Spells (String.ofList number) y) (hs : s.factor? = some f) :
    splitSuffix (number ++ s.chars) = (number, s) := by
  obtain ⟨ds, c, rfl, hc, hi⟩ := not_suffix_of_spells hnumber
  exact splitSuffix_append hc hi (Suffix.valid_of_factor? hs)

/-! ## Quantities -/

/-- The text that a quantity is read from. A number is taken as it is. -/
def quantityText : Document → Option String
  | .text s => some (trim s)
  | .bool _ | .int _ | .float _ | .decimal _ => none
  | d => some d.display

/-- A quantity stands for a rational number: the one that is written, times the power that the suffix
stands for. -/
inductive Worth : Document → ℚ → Prop
  | written {raw number y f} {s : Suffix} : quantityText raw = some (String.ofList (number ++ s.chars)) →
      Spells (String.ofList number) y → s.factor? = some f → Worth raw (y * f)
  | bool {b} : Worth (.bool b) (if b then 1 else 0)
  | int {n} : Worth (.int n) n
  | float {x n m e} : Binary64.classify x = .finite n m e → Worth (.float x) (signed n (m * 2 ^ e))
  | decimal {d} {x : ℚ} : d.size? = some (x : Size) → Worth (.decimal d) x

theorem trim_eq_empty {s : String} (h : isBlankText s = true) : trim s = "" := by
  rw [isBlankText, List.all_eq_true] at h
  have hdrop : s.toList.dropWhile isBlank = [] := List.dropWhile_eq_nil_iff.2 h
  rw [trim, trimChars, hdrop]
  rfl

theorem parse_of_quantityText {raw : Document} {t : String} (h : quantityText raw = some t) (ht : t ≠ "") :
    parse raw = parseText t := by
  cases raw with
  | text s =>
    obtain rfl := Option.some.inj h
    have hblank : isBlankText s = false := by
      by_contra hb
      exact ht (trim_eq_empty (Bool.not_eq_false _ ▸ hb))
    rw [parse, hblank, if_neg Bool.false_ne_true]
  | bool | int | float | decimal => cases h
  | _ =>
    obtain rfl := Option.some.inj h
    rfl

/-- A quantity is read as the number that it stands for, if that is representable. -/
theorem Worth.parse {raw : Document} {x : ℚ} (h : Worth raw x) (hx : Representable x) :
    ∃ d, Quantity.parse raw = .ok d ∧ d.size? = some (x : Size) := by
  cases h with
  | @written _ number y f s htext hnumber hs =>
    have hne : String.ofList (number ++ s.chars) ≠ "" := by
      intro hempty
      obtain ⟨ds, c, rfl, -⟩ := not_suffix_of_spells hnumber
      have hnil := congrArg String.toList hempty
      simp at hnil
    obtain ⟨d, hd, hsize⟩ := hnumber.read?
    have hsplit : splitSuffix (String.ofList (number ++ s.chars)).toList = (number, s) := by
      rw [String.toList_ofList]
      exact splitSuffix_of_spells hnumber hs
    rw [parse_of_quantityText htext hne, parseText_of_read hsplit hd]
    rcases applySuffix_of_factor? (String.ofList (number ++ s.chars)) d hs with
      ⟨rfl, rfl⟩ | ⟨g, hg, happly⟩
    · exact ⟨d, rfl, by rw [hsize, mul_one]⟩
    · obtain ⟨n, q, e, hmul, -, -, hvalue⟩ := Decimal.mul_exact hsize hg hx
      exact ⟨_, by rw [happly, Quantity.scaled, hmul], by rw [Decimal.size?, hvalue]⟩
  | @bool b => exact ⟨_, rfl, by rw [Decimal.ofInt_size]; cases b <;> simp⟩
  | int => exact ⟨_, rfl, Decimal.ofInt_size _⟩
  | float hparts => exact ⟨_, rfl, Decimal.ofFloat_size hparts⟩
  | decimal hsize => exact ⟨_, rfl, hsize⟩

/-- What a suffix makes a finite number of was one before. -/
theorem applySuffix_finite {quantity : String} {d p : Decimal} {s : Suffix}
    (h : applySuffix quantity d s = .ok p) (hp : p.isFinite = true) :
    d.isFinite = true ∧ ∃ f, s.factor? = some f := by
  have hscaled {factor : Option Decimal} (h : scaled quantity d factor = .ok p)
      (hfactor : ∀ g, factor = some g → ∃ f : ℚ, s.factor? = some f ∧ g.size? = some (f : Size)) :
      d.isFinite = true ∧ ∃ f, s.factor? = some f := by
    unfold scaled at h
    split at h
    next => cases h
    next g =>
      obtain ⟨f, hf, hsize⟩ := hfactor g rfl
      split at h
      next hmul =>
        obtain rfl := Except.ok.inj h
        exact ⟨Decimal.isFinite_of_mul hmul (Decimal.isFinite_iff.2 ⟨f, hsize⟩) hp, f, hf⟩
      next => cases h
  cases s with
  | none =>
    obtain rfl := Except.ok.inj h
    exact ⟨hp, 1, rfl⟩
  | decimal c => exact hscaled h fun g => decimalFactor?_size
  | binary c => exact hscaled h fun g => binaryFactor?_size

/-- What is read as a finite number stands for one. -/
theorem exists_worth {raw : Document} {p : Decimal} (h : parse raw = .ok p) (hp : p.isFinite = true) :
    ∃ x, Worth raw x := by
  have htext {t : String} (ht : quantityText raw = some t) (h : parseText t = .ok p) : ∃ x, Worth raw x := by
    obtain ⟨⟨number, s⟩, hsplit⟩ : ∃ parts, splitSuffix t.toList = parts := ⟨_, rfl⟩
    cases hread : Decimal.read? (String.ofList number) with
    | none => simp [parseText, hsplit, hread] at h
    | some d =>
      rw [parseText_of_read hsplit hread] at h
      obtain ⟨hd, f, hf⟩ := applySuffix_finite h hp
      obtain ⟨y, hy⟩ := Decimal.isFinite_iff.1 hd
      refine ⟨y * f, .written ?_ (Decimal.spells_iff.2 ⟨d, hread, hy⟩) hf⟩
      rw [ht, ← chars_of_splitSuffix hsplit, String.ofList_toList]
  cases raw with
  | text s =>
    rw [parse] at h
    split at h
    next => cases h
    next => exact htext rfl h
  | bool => exact ⟨_, .bool⟩
  | int => exact ⟨_, .int⟩
  | float x =>
    obtain rfl := Except.ok.inj h
    cases hparts : Binary64.classify x with
    | finite => exact ⟨_, .float hparts⟩
    | infinite => simp [Decimal.ofFloat, hparts, Decimal.isFinite] at hp
    | nan => simp [Decimal.ofFloat, hparts, Decimal.isFinite] at hp
  | decimal d =>
    obtain rfl := Except.ok.inj h
    obtain ⟨x, hx⟩ := Decimal.isFinite_iff.1 hp
    exact ⟨x, .decimal hx⟩
  | _ => exact htext rfl h

/-! ## Headroom factors -/

/-- A headroom factor stands for a rational number: a decimal number for itself, anything else for
the number that is written by the text that shows it. -/
inductive Stands : Document → ℚ → Prop
  | decimal {d} {y : ℚ} : d.size? = some (y : Size) → Stands (.decimal d) y
  | shown {m : Document} {y : ℚ} : (∀ d, m ≠ .decimal d) → Spells m.display y → Stands m y

/-- What a factor is read as. -/
def reading : Document → Option Decimal
  | .decimal d => some d
  | m => Decimal.read? m.display

theorem reading_shown {m : Document} (h : ∀ d, m ≠ .decimal d) : reading m = Decimal.read? m.display := by
  cases m with
  | decimal d => exact absurd rfl (h d)
  | _ => rfl

theorem stands_iff {m : Document} {y : ℚ} :
    Stands m y ↔ ∃ d, reading m = some d ∧ d.size? = some (y : Size) := by
  constructor
  · rintro (hsize | ⟨hm, hspells⟩)
    · exact ⟨_, rfl, hsize⟩
    · rw [reading_shown hm]
      exact hspells.read?
  · rintro ⟨d, hd, hsize⟩
    by_cases hm : ∃ d, m = .decimal d
    · obtain ⟨d', rfl⟩ := hm
      obtain rfl := Option.some.inj hd
      exact .decimal hsize
    · rw [not_exists] at hm
      rw [reading_shown hm] at hd
      exact .shown hm (Decimal.spells_iff.2 ⟨d, hd, hsize⟩)

theorem multiplier_of_none {factor : Document} (h : reading factor = none) :
    multiplier factor = .error (.invalidMultiplier factor.display) := by
  unfold multiplier
  dsimp only
  split
  next => rfl
  next d hd =>
    have hread : reading factor = some d := hd
    rw [h] at hread
    cases hread

theorem multiplier_of_some {factor : Document} {d : Decimal} (h : reading factor = some d) :
    multiplier factor =
      if !d.isFinite then .error (.infiniteMultiplier factor.display)
      else if d.isBelowZero then .error (.negativeMultiplier factor.display)
      else .ok d := by
  unfold multiplier
  dsimp only
  split
  next hnone =>
    have hread : reading factor = none := hnone
    rw [h] at hread
    cases hread
  next d' hd' =>
    have hread : reading factor = some d' := hd'
    rw [h] at hread
    obtain rfl := Option.some.inj hread
    rfl

/-- Why a factor is refused, by the message that shows it. -/
inductive Refused (factor : Document) : Problem → Prop
  | unreadable : reading factor = none → Refused factor (.invalidMultiplier factor.display)
  | unbounded {d} : reading factor = some d → d.isFinite = false →
      Refused factor (.infiniteMultiplier factor.display)
  | negative {y} : Stands factor y → y < 0 → Refused factor (.negativeMultiplier factor.display)

/-- A factor is accepted if it stands for a number that is not negative, and refused otherwise. -/
theorem multiplier_cases (factor : Document) :
    (∃ m y, multiplier factor = .ok m ∧ m.size? = some ((y : ℚ) : Size) ∧ Stands factor y ∧ 0 ≤ y) ∨
      ∃ p, multiplier factor = .error p ∧ Refused factor p := by
  cases hread : reading factor with
  | none => exact .inr ⟨_, multiplier_of_none hread, .unreadable hread⟩
  | some d =>
    rw [multiplier_of_some hread]
    by_cases hfinite : d.isFinite = true
    · obtain ⟨y, hy⟩ := Decimal.isFinite_iff.1 hfinite
      have hstands := stands_iff.2 ⟨d, hread, hy⟩
      simp only [hfinite, Bool.not_true, Bool.false_eq_true, if_false]
      by_cases hneg : y < 0
      · rw [if_pos ((Decimal.isBelowZero_iff hy).2 hneg)]
        exact .inr ⟨_, rfl, .negative hstands hneg⟩
      · rw [if_neg (mt (Decimal.isBelowZero_iff hy).1 hneg)]
        exact .inl ⟨d, y, rfl, hy, hstands, not_lt.1 hneg⟩
    · rw [Bool.not_eq_true] at hfinite
      simp only [hfinite, Bool.not_false, if_true]
      exact .inr ⟨_, rfl, .unbounded hread hfinite⟩

theorem Stands.unique {m : Document} {y y' : ℚ} (h : Stands m y) (h' : Stands m y') : y = y' := by
  obtain ⟨d, hd, hy⟩ := stands_iff.1 h
  obtain ⟨d', hd', hy'⟩ := stands_iff.1 h'
  obtain rfl := Option.some.inj (hd.symm.trans hd')
  exact WithBotTop.coe_injective (Option.some.inj (hy.symm.trans hy'))

theorem Refused.not_stands {factor : Document} {p : Problem} (h : Refused factor p) {y : ℚ}
    (hy : Stands factor y) : y < 0 := by
  obtain ⟨d, hd, hsize⟩ := stands_iff.1 hy
  cases h with
  | unreadable hnone =>
    rw [hnone] at hd
    cases hd
  | unbounded hsome hfinite =>
    obtain rfl := Option.some.inj (hsome.symm.trans hd)
    rw [Decimal.isFinite_iff.2 ⟨_, hsize⟩] at hfinite
    cases hfinite
  | negative hstands hneg =>
    obtain rfl := hy.unique hstands
    exact hneg

theorem Stands.multiplier {factor : Document} {y : ℚ} (h : Stands factor y) (hy : 0 ≤ y) :
    ∃ m, Quantity.multiplier factor = .ok m ∧ m.size? = some (y : Size) := by
  rcases multiplier_cases factor with ⟨m, y', hm, hsize, hstands, -⟩ | ⟨p, -, hp⟩
  · obtain rfl := h.unique hstands
    exact ⟨m, hm, hsize⟩
  · exact absurd (hp.not_stands h) (not_lt_of_ge hy)

end Quantity

end FlowWarden
