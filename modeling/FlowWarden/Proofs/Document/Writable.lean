import FlowWarden.Document.Json.Reader
import FlowWarden.Document.Literal
import FlowWarden.Proofs.Decimal.Numeral
import FlowWarden.Proofs.Text.Integer
/-!
# Documents that can be written

The parts of a document that can be written can be written. What a cluster sends is read as JSON, and
every document that is read so can be written: `Json.isWritable_of_read?`.
-/

namespace FlowWarden.Document

/-! ## Parts -/

theorem writableItems_iff {ds : List Document} :
    writableItems ds = true ↔ ∀ d ∈ ds, d.isWritable = true := by
  induction ds with
  | nil => simp [writableItems]
  | cons d ds ih => rw [writableItems, Bool.and_eq_true, ih, List.forall_mem_cons]

theorem writableEntries_cons_iff {e : Document × Document} {es : List (Document × Document)} :
    writableEntries (e :: es) = true ↔
      (e.1.isWritable = true ∧ e.2.isWritable = true) ∧ writableEntries es = true := by
  rw [writableEntries, Bool.and_eq_true, Bool.and_eq_true]

theorem isWritable_of_mem {es : List (Document × Document)} {e : Document × Document}
    (h : writableEntries es = true) (he : e ∈ es) : e.2.isWritable = true := by
  induction es with
  | nil => cases he
  | cons e' es ih =>
    obtain ⟨⟨-, hvalue⟩, hrest⟩ := writableEntries_cons_iff.1 h
    rcases List.mem_cons.1 he with rfl | he
    · exact hvalue
    · exact ih hrest he

/-- What stands under a key of a document that can be written can be written. -/
theorem isWritable_of_get? {d v : Document} {key : String} (hd : d.isWritable = true)
    (h : d.get? key = some v) : v.isWritable = true := by
  cases d with
  | map es =>
    obtain ⟨e, he, rfl⟩ := Option.map_eq_some_iff.1 h
    rw [isWritable] at hd
    exact isWritable_of_mem hd (List.mem_of_find?_eq_some he)
  | _ => cases h

theorem writableEntries_insertEntry (same : Document → Bool) {key value : Document}
    {es : List (Document × Document)} (hkey : key.isWritable = true)
    (hvalue : value.isWritable = true) (hes : writableEntries es = true) :
    writableEntries (insertEntry same key value es) = true := by
  induction es with
  | nil => exact writableEntries_cons_iff.2 ⟨⟨hkey, hvalue⟩, rfl⟩
  | cons e es ih =>
    obtain ⟨⟨hname, hold⟩, hrest⟩ := writableEntries_cons_iff.1 hes
    unfold insertEntry
    split
    · exact writableEntries_cons_iff.2 ⟨⟨hname, hvalue⟩, hrest⟩
    · exact writableEntries_cons_iff.2 ⟨⟨hname, hold⟩, ih hrest⟩

namespace Json

open Text

/-! ## Numbers -/

theorem digitsValue_lt {ds : List Char} {width : Nat} (h : ∀ c ∈ ds, c.isDigit = true)
    (hlength : ds.length ≤ width) : digitsValue ds < Nat.pow 10 width := by
  refine ofDigits_lt_of_length (fun d hd => ?_) (by simpa using hlength)
  obtain ⟨c, hc, rfl⟩ := List.mem_map.1 hd
  have hbounds := isDigit_bounds (h c hc)
  have hzero : '0'.toNat = 48 := rfl
  unfold digitValue
  omega

theorem readNumber_writable {cs rest : List Char} {d : Document}
    (h : readNumber cs = some (d, rest)) : d.isWritable = true := by
  unfold readNumber at h
  dsimp only at h
  split at h
  · obtain ⟨x, -, heq⟩ := Option.map_eq_some_iff.1 h
    obtain ⟨rfl, -⟩ := Prod.mk.inj heq
    rfl
  · split at h
    next => cases h
    next hds =>
      obtain ⟨rfl, -⟩ := Prod.mk.inj (Option.some.inj h)
      simp only [Bool.or_eq_true, not_or, Bool.not_eq_true', Bool.not_eq_false, List.all_eq_true,
        decide_eq_true_eq, not_lt] at hds
      obtain ⟨⟨-, hdigits⟩, hlength⟩ := hds
      rw [Document.isWritable, isWritable_iff]
      refine lt_of_eq_of_lt ?_ (digitsValue_lt hdigits hlength)
      split <;> simp

/-! ## Documents -/

/-- What is read with a bound on the characters to look at can be written. -/
structure Writes (fuel : Nat) : Prop where
  value : ∀ cs d rest, readValue fuel cs = some (d, rest) → d.isWritable = true
  items : ∀ cs ds rest, readItems fuel cs = some (ds, rest) → writableItems ds = true
  members : ∀ entries cs es rest, writableEntries entries = true →
    readMembers fuel entries cs = some (es, rest) → writableEntries es = true

theorem isWritable_of_some {d d' : Document} {cs rest : List Char} (hd : d'.isWritable = true)
    (h : some (d', cs) = some (d, rest)) : d.isWritable = true := by
  obtain ⟨rfl, -⟩ := Prod.mk.inj (Option.some.inj h)
  exact hd

theorem isWritable_of_map {α : Type} {x : Option (α × List Char)} {f : α → Document}
    {d : Document} {rest : List Char} (hf : ∀ a cs, x = some (a, cs) → (f a).isWritable = true)
    (h : x.map (fun p => (f p.1, p.2)) = some (d, rest)) : d.isWritable = true := by
  obtain ⟨⟨a, cs⟩, hx, heq⟩ := Option.map_eq_some_iff.1 h
  obtain ⟨rfl, -⟩ := Prod.mk.inj heq
  exact hf a cs hx

theorem Writes.value_succ {fuel : Nat} (h : Writes fuel) {cs rest : List Char} {d : Document}
    (hread : readValue (fuel + 1) cs = some (d, rest)) : d.isWritable = true := by
  unfold readValue at hread
  split at hread
  next => exact isWritable_of_map (f := .text) (fun _ _ _ => rfl) hread
  next =>
    split at hread
    next => exact isWritable_of_some rfl hread
    next =>
      refine isWritable_of_map (f := .list) (fun items cs' hitems => ?_) hread
      rw [Document.isWritable]
      exact h.items _ _ _ hitems
  next =>
    split at hread
    next => exact isWritable_of_some rfl hread
    next =>
      refine isWritable_of_map (f := .map) (fun entries cs' hmembers => ?_) hread
      rw [Document.isWritable]
      exact h.members _ _ _ _ rfl hmembers
  next => exact isWritable_of_some rfl hread
  next => exact isWritable_of_some rfl hread
  next => exact isWritable_of_some rfl hread
  next => exact readNumber_writable hread

theorem Writes.items_succ {fuel : Nat} (h : Writes fuel) {cs rest : List Char} {ds : List Document}
    (hread : readItems (fuel + 1) cs = some (ds, rest)) : writableItems ds = true := by
  unfold readItems at hread
  obtain ⟨⟨d, cs'⟩, hvalue, hread⟩ := Option.bind_eq_some_iff.1 hread
  have hd := h.value _ _ _ hvalue
  dsimp only at hread
  split at hread
  next =>
    obtain ⟨⟨ds', cs''⟩, hitems, heq⟩ := Option.bind_eq_some_iff.1 hread
    obtain ⟨rfl, -⟩ := Prod.mk.inj (Option.some.inj heq)
    rw [writableItems, hd, h.items _ _ _ hitems]
    rfl
  next =>
    obtain ⟨rfl, -⟩ := Prod.mk.inj (Option.some.inj hread)
    rw [writableItems, hd]
    rfl
  next => cases hread

theorem Writes.members_succ {fuel : Nat} (h : Writes fuel) {cs rest : List Char}
    {entries es : List (Document × Document)} (hentries : writableEntries entries = true)
    (hread : readMembers (fuel + 1) entries cs = some (es, rest)) : writableEntries es = true := by
  unfold readMembers at hread
  split at hread
  next =>
    obtain ⟨⟨key, cs₁⟩, -, hread⟩ := Option.bind_eq_some_iff.1 hread
    dsimp only at hread
    split at hread
    next =>
      obtain ⟨⟨value, cs₂⟩, hvalue, hread⟩ := Option.bind_eq_some_iff.1 hread
      have hset : writableEntries (setField key value entries) = true :=
        writableEntries_insertEntry _ rfl (h.value _ _ _ hvalue) hentries
      dsimp only at hread
      split at hread
      next => exact h.members _ _ _ _ hset hread
      next =>
        obtain ⟨rfl, -⟩ := Prod.mk.inj (Option.some.inj hread)
        exact hset
      next => cases hread
    next => cases hread
  next => cases hread

theorem writes (fuel : Nat) : Writes fuel := by
  induction fuel with
  | zero =>
    refine ⟨fun _ _ _ h => ?_, fun _ _ _ h => ?_, fun _ _ _ _ _ h => ?_⟩
    · simp [readValue] at h
    · simp [readItems] at h
    · simp [readMembers] at h
  | succ fuel ih =>
    exact ⟨fun _ _ _ h => ih.value_succ h, fun _ _ _ h => ih.items_succ h,
      fun _ _ _ _ hentries h => ih.members_succ hentries h⟩

/-- A document that was read can be written. -/
theorem isWritable_of_read? {s : String} {d : Document} (h : read? s = some d) :
    d.isWritable = true := by
  unfold read? at h
  dsimp only at h
  split at h
  next d' rest hread =>
    split at h
    · obtain rfl := Option.some.inj h
      exact (writes _).value _ _ _ hread
    · cases h
  next => cases h

end Json

end FlowWarden.Document
