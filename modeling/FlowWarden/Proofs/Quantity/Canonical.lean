import FlowWarden.Proofs.Quantity.Written
import Mathlib
/-!
# Written quantities are canonical

An amount has one text. Millicores are written as cores just if they are whole cores, and bytes with
the largest suffix whose factor divides them, with no suffix if none does. Nothing is lost: the text is
read back to the same size, so no two amounts are written alike. `format_canonical` has all of this.
-/

namespace FlowWarden

/-- In a list that is sorted by a key, the first element with a property is the one with the largest
key. -/
theorem find?_eq_some_of_sorted {α : Type} {key : α → Nat} {p : α → Bool} {l : List α}
    (h : l.Pairwise fun a b => key b < key a) {b : α} :
    l.find? p = some b ↔ b ∈ l ∧ p b = true ∧ ∀ a ∈ l, key b < key a → p a = false := by
  induction l with
  | nil => simp
  | cons a l ih =>
    obtain ⟨ha, hl⟩ := List.pairwise_cons.1 h
    rw [List.find?_cons]
    cases hp : p a with
    | true =>
      -- All later keys are smaller.
      constructor
      · intro heq
        obtain rfl := Option.some.inj heq
        refine ⟨List.mem_cons_self, hp, fun c hc hlt => ?_⟩
        rcases List.mem_cons.1 hc with rfl | hc
        · exact absurd hlt (Nat.lt_irrefl _)
        · exact absurd hlt (Nat.lt_asymm (ha c hc))
      · rintro ⟨hb, -, hlarger⟩
        rcases List.mem_cons.1 hb with rfl | hb
        · rfl
        · rw [hlarger a List.mem_cons_self (ha b hb)] at hp
          cases hp
    | false =>
      have hne {c : α} (hc : p c = true) : c ≠ a := by
        rintro rfl
        rw [hp] at hc
        cases hc
      rw [ih hl]
      constructor
      · rintro ⟨hb, hpb, hlarger⟩
        refine ⟨List.mem_cons_of_mem a hb, hpb, fun c hc hlt => ?_⟩
        rcases List.mem_cons.1 hc with rfl | hc
        · exact hp
        · exact hlarger c hc hlt
      · rintro ⟨hb, hpb, hlarger⟩
        refine ⟨(List.mem_cons.1 hb).resolve_left (hne hpb), hpb, fun c hc => ?_⟩
        exact hlarger c (List.mem_cons_of_mem a hc)

namespace Quantity

open Decimal (Size precision)

/-- A written amount tells its number and its suffix. -/
theorem written_injective {n m : Int} {s t : Suffix} (hs : s.Valid) (ht : t.Valid)
    (h : toString n ++ String.ofList s.chars = toString m ++ String.ofList t.chars) : n = m ∧ s = t := by
  have hn := splitSuffix_written n hs
  rw [h, splitSuffix_written m ht] at hn
  obtain ⟨htext, rfl⟩ := Prod.mk.inj hn
  exact ⟨Int.repr_inj.1 (String.toList_injective htext.symm), rfl⟩

theorem toString_ne_written {n m : Int} {s : Suffix} (hs : s.Valid) (hsome : s ≠ .none) :
    toString n ≠ toString m ++ String.ofList s.chars := by
  intro h
  rw [← String.append_empty (s := toString n)] at h
  exact hsome (written_injective (s := .none) trivial hs h).2.symm

/-! ## Processor amounts -/

theorem formatCpu_eq_toString_iff {n k : Int} : formatCpu n = toString k ↔ k * 1000 = n := by
  have hmillis : (millisPerCore : Int) = 1000 := rfl
  unfold formatCpu
  rw [hmillis]
  split
  next hcores =>
    constructor
    · intro h
      have hk := Int.repr_inj.1 h
      omega
    · intro h
      rw [show n / 1000 = k by omega]
  next hrest =>
    refine iff_of_false (fun h => ?_) (by omega)
    exact toString_ne_written (s := .decimal 'm') rfl (by simp) h.symm

theorem formatCpu_eq_millis_iff {n k : Int} :
    formatCpu n = toString k ++ "m" ↔ k = n ∧ ¬ (1000 : Int) ∣ n := by
  have hmillis : (millisPerCore : Int) = 1000 := rfl
  unfold formatCpu
  rw [hmillis]
  split
  next hcores =>
    refine iff_of_false (fun h => ?_) (by omega)
    exact toString_ne_written (s := .decimal 'm') rfl (by simp) h
  next hrest =>
    constructor
    · intro h
      have hk := (written_injective (s := .decimal 'm') (t := .decimal 'm') rfl rfl h).1
      omega
    · rintro ⟨rfl, -⟩
      rfl

/-! ## Memory amounts -/

/-- The table goes from the largest suffix to the smallest. -/
theorem binarySuffixes_sorted : binarySuffixes.Pairwise fun a b => b.2 < a.2 := by
  decide

/-- No two suffixes of the table are written alike. -/
theorem factor_unique {s t : String × Nat} (hs : s ∈ binarySuffixes) (ht : t ∈ binarySuffixes) {n m : Int}
    (h : toString n ++ s.1 = toString m ++ t.1) : n = m ∧ s = t := by
  obtain ⟨c, hc, hvalid, hfactor⟩ := binarySuffixes_spec hs
  obtain ⟨c', hc', hvalid', hfactor'⟩ := binarySuffixes_spec ht
  rw [hc, hc'] at h
  obtain ⟨hn, hsuffix⟩ := written_injective hvalid hvalid' h
  obtain rfl : c = c' := by simpa using hsuffix
  rw [hfactor] at hfactor'
  refine ⟨hn, Prod.ext (hc.trans hc'.symm) ?_⟩
  simpa using hfactor'

/-- The suffix that an amount is written with. -/
theorem find?_binarySuffixes {n : Int} {s : String × Nat} :
    (binarySuffixes.find? fun t => n % t.2 == 0) = some s ↔
      s ∈ binarySuffixes ∧ (s.2 : Int) ∣ n ∧ ∀ t ∈ binarySuffixes, s.2 < t.2 → ¬ (t.2 : Int) ∣ n := by
  have hdvd (t : String × Nat) : (n % t.2 == 0) = true ↔ (t.2 : Int) ∣ n := by
    rw [beq_iff_eq, Int.dvd_iff_emod_eq_zero]
  rw [find?_eq_some_of_sorted binarySuffixes_sorted, hdvd]
  simp only [← Bool.not_eq_true, hdvd]

theorem formatMemory_of_ne_zero {n : Int} (hn : n ≠ 0) :
    formatMemory n = match binarySuffixes.find? fun t => n % t.2 == 0 with
      | some t => toString (n / t.2) ++ t.1
      | none => toString n := by
  rw [formatMemory, if_neg hn]
  cases binarySuffixes.find? fun t => n % t.2 == 0 <;> rfl

theorem formatMemory_eq_suffixed_iff {n k : Int} (hn : n ≠ 0) {s : String × Nat}
    (hs : s ∈ binarySuffixes) :
    formatMemory n = toString k ++ s.1 ↔
      k * s.2 = n ∧ ∀ t ∈ binarySuffixes, s.2 < t.2 → ¬ (t.2 : Int) ∣ n := by
  rw [formatMemory_of_ne_zero hn]
  constructor
  · intro h
    split at h
    next t hfind =>
      obtain ⟨ht, hdvd, hlargest⟩ := find?_binarySuffixes.1 hfind
      obtain ⟨rfl, rfl⟩ := factor_unique ht hs h
      exact ⟨Int.ediv_mul_cancel hdvd, hlargest⟩
    next =>
      obtain ⟨c, hc, hvalid, -⟩ := binarySuffixes_spec hs
      rw [hc] at h
      exact absurd h (toString_ne_written hvalid (by simp))
  · rintro ⟨rfl, hlargest⟩
    rw [find?_binarySuffixes.2 ⟨hs, Dvd.intro_left k rfl, hlargest⟩]
    dsimp only
    rw [Int.mul_ediv_cancel k (right_ne_zero_of_mul hn)]

theorem formatMemory_eq_toString_iff {n k : Int} :
    formatMemory n = toString k ↔ k = n ∧ (n ≠ 0 → ∀ t ∈ binarySuffixes, ¬ (t.2 : Int) ∣ n) := by
  by_cases hn : n = 0
  · subst hn
    constructor
    · intro h
      have hzero : toString (0 : Int) = toString k := h
      exact ⟨(Int.repr_inj.1 hzero).symm, fun hne => absurd rfl hne⟩
    · rintro ⟨rfl, -⟩
      rfl
  · rw [formatMemory_of_ne_zero hn]
    split
    next t hfind =>
      -- The text ends with a suffix, and the number can be divided by its factor.
      obtain ⟨ht, hdvd, -⟩ := find?_binarySuffixes.1 hfind
      obtain ⟨c, hc, hvalid, -⟩ := binarySuffixes_spec ht
      refine iff_of_false (fun h => ?_) fun h => h.2 hn t ht hdvd
      rw [hc] at h
      exact toString_ne_written hvalid (by simp) h.symm
    next hfind =>
      have hnone : ∀ t ∈ binarySuffixes, ¬ (t.2 : Int) ∣ n := by
        intro t ht hdvd
        have hrest := List.find?_eq_none.1 hfind t ht
        rw [beq_iff_eq, ← Int.dvd_iff_emod_eq_zero] at hrest
        exact hrest hdvd
      exact ⟨fun h => ⟨(Int.repr_inj.1 h).symm, fun _ => hnone⟩, fun h => by rw [h.1]⟩

/-! ## The factors as powers of 1024 -/

theorem exists_power : ∀ t ∈ binarySuffixes, ∃ i ≤ 6, t.2 = 1024 ^ i := by
  decide

theorem exists_factor : ∀ i ≤ 6, 0 < i → ∃ t ∈ binarySuffixes, t.2 = 1024 ^ i := by
  decide

/-- The factors above a power of 1024 are the powers above it, up to the sixth. -/
theorem undivided_iff {n : Int} {p : Nat} :
    (∀ t ∈ binarySuffixes, 1024 ^ p < t.2 → ¬ (t.2 : Int) ∣ n) ↔
      ∀ i, p < i → i ≤ 6 → ¬ (1024 : Int) ^ i ∣ n := by
  have hlt {i : Nat} : 1024 ^ p < 1024 ^ i ↔ p < i := Nat.pow_lt_pow_iff_right (by decide)
  constructor
  · intro h i hpi hi
    obtain ⟨t, ht, hfactor⟩ := exists_factor i hi (Nat.zero_lt_of_lt hpi)
    have hundivided := h t ht (by rwa [hfactor, hlt])
    rw [hfactor] at hundivided
    exact_mod_cast hundivided
  · intro h t ht hpt
    obtain ⟨i, hi, hfactor⟩ := exists_power t ht
    rw [hfactor, hlt] at hpt
    rw [hfactor]
    exact_mod_cast h i hpt hi

theorem formatMemory_eq_binary_iff {n k : Int} (hn : n ≠ 0) {s : String × Nat}
    (hs : s ∈ [("Ei", 6), ("Pi", 5), ("Ti", 4), ("Gi", 3), ("Mi", 2), ("Ki", 1)]) :
    formatMemory n = toString k ++ s.1 ↔
      k * 1024 ^ s.2 = n ∧ ∀ i, s.2 < i → i ≤ 6 → ¬ (1024 : Int) ^ i ∣ n := by
  have hmem : (s.1, 1024 ^ s.2) ∈ binarySuffixes := by
    revert s
    decide
  have hsuffixed := formatMemory_eq_suffixed_iff (k := k) hn hmem
  rw [undivided_iff] at hsuffixed
  exact_mod_cast hsuffixed

theorem formatMemory_eq_plain_iff {n k : Int} :
    formatMemory n = toString k ↔
      k = n ∧ (n ≠ 0 → ∀ i, 0 < i → i ≤ 6 → ¬ (1024 : Int) ^ i ∣ n) := by
  have hlarge : ∀ t ∈ binarySuffixes, 1024 ^ 0 < t.2 := by decide
  rw [formatMemory_eq_toString_iff, ← undivided_iff]
  refine and_congr_right fun _ => imp_congr_right fun _ => ?_
  exact forall₂_congr fun t ht => ⟨fun h _ => h, fun h => h (hlarge t ht)⟩

/-! ## Amounts as a result can be -/

/-- The texts of an amount in millicores and in bytes are read back to it, and only they are its. -/
structure Canonical (n : Int) : Prop where
  cpu_reads : ∃ d, parse (.text (formatCpu n)) = .ok d ∧ d.size? = some ((n / 1000 : ℚ) : Size)
  memory_reads : ∃ d, parse (.text (formatMemory n)) = .ok d ∧ d.size? = some ((n : ℚ) : Size)
  /-- It is written in cores just if it is a number of cores. -/
  cores_iff : ∀ k : Int, formatCpu n = toString k ↔ k * 1000 = n
  millicores_iff : ∀ k : Int, formatCpu n = toString k ++ "m" ↔ k = n ∧ ¬ (1000 : Int) ∣ n
  /-- It is written with the largest suffix whose factor divides it. -/
  suffixed_iff : n ≠ 0 →
    ∀ s ∈ [("Ei", 6), ("Pi", 5), ("Ti", 4), ("Gi", 3), ("Mi", 2), ("Ki", 1)], ∀ k : Int,
      formatMemory n = toString k ++ s.1 ↔
        k * 1024 ^ s.2 = n ∧ ∀ i, s.2 < i → i ≤ 6 → ¬ (1024 : Int) ^ i ∣ n
  plain_iff : ∀ k : Int, formatMemory n = toString k ↔
    k = n ∧ (n ≠ 0 → ∀ i, 0 < i → i ≤ 6 → ¬ (1024 : Int) ^ i ∣ n)
  cpu_injective : ∀ m : Int, m.natAbs < 10 ^ precision → formatCpu m = formatCpu n → m = n
  memory_injective : ∀ m : Int, m.natAbs < 10 ^ precision → formatMemory m = formatMemory n → m = n

theorem size_unique {t : String} {x y : ℚ}
    (h : ∃ d, parse (.text t) = .ok d ∧ d.size? = some (x : Size))
    (h' : ∃ d, parse (.text t) = .ok d ∧ d.size? = some (y : Size)) : x = y := by
  obtain ⟨d, hd, hx⟩ := h
  obtain ⟨d', hd', hy⟩ := h'
  obtain rfl := Except.ok.inj (hd.symm.trans hd')
  exact WithBotTop.coe_injective (Option.some.inj (hx.symm.trans hy))

/-- An amount of at most 28 digits, as scaling gives it, is written in the one canonical way. -/
theorem format_canonical {n : Int} (h : n.natAbs < 10 ^ precision) : Canonical n where
  cpu_reads := parse_formatCpu h
  memory_reads := parse_formatMemory h
  cores_iff _ := formatCpu_eq_toString_iff
  millicores_iff _ := formatCpu_eq_millis_iff
  suffixed_iff hn _ hs _ := formatMemory_eq_binary_iff hn hs
  plain_iff _ := formatMemory_eq_plain_iff
  cpu_injective m hm heq := by
    have hsize := size_unique (parse_formatCpu hm) (heq ▸ parse_formatCpu h)
    have hcast : (m : ℚ) = n := by linarith
    exact_mod_cast hcast
  memory_injective m hm heq := by
    have hsize := size_unique (parse_formatMemory hm) (heq ▸ parse_formatMemory h)
    exact_mod_cast hsize

/-- An amount below zero, which 1024 divides but no larger factor does, and one that four of the
factors divide: it is written with the largest of them and not with the next. -/
theorem kibibytes_canonical :
    (-1572864 : Int).natAbs < 10 ^ precision ∧ Canonical (-1572864) ∧
      formatMemory (-1572864) = "-1536Ki" ∧
      (3298534883328 : Int).natAbs < 10 ^ precision ∧ Canonical 3298534883328 ∧
      formatMemory 3298534883328 = "3Ti" ∧
      ∀ k : Int, formatMemory 3298534883328 ≠ toString k ++ "Gi" := by
  have hsmall : (-1572864 : Int).natAbs < 10 ^ precision := by decide
  have hlarge : (3298534883328 : Int).natAbs < 10 ^ precision := by decide
  have hcanonical := format_canonical hlarge
  refine ⟨hsmall, format_canonical hsmall, by decide +kernel, hlarge, hcanonical,
    by decide +kernel, fun k hk => ?_⟩
  have hgibi := (hcanonical.suffixed_iff (by decide) ("Gi", 3) (by simp) k).1 hk
  exact hgibi.2 4 (by decide) (by decide) ⟨3, by decide⟩

end Quantity

end FlowWarden
