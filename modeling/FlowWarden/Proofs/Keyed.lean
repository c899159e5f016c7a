import FlowWarden.Keyed
/-!
# Entries set one after another

What a list of pairs leaves under a key when they are entered in order: the keys are those that
were there and those of the pairs, and where the pairs have distinct keys each of them stays, in
its place.
-/

namespace FlowWarden.Keyed

variable {κ α : Type} [DecidableEq κ]

/-- The entries with one key after another set. -/
def insertAll (ps m : List (κ × α)) : List (κ × α) :=
  ps.foldl (fun m p => insert p.1 p.2 m) m

theorem insertAll_append (ps qs m : List (κ × α)) :
    insertAll (ps ++ qs) m = insertAll qs (insertAll ps m) :=
  List.foldl_append

theorem mem_keys_insertAll {k : κ} (ps m : List (κ × α)) :
    k ∈ keys (insertAll ps m) ↔ k ∈ keys m ∨ k ∈ keys ps := by
  induction ps generalizing m with
  | nil => simp [insertAll, keys]
  | cons p ps ih =>
    have hk : keys (p :: ps) = p.1 :: keys ps := rfl
    rw [show insertAll (p :: ps) m = insertAll ps (insert p.1 p.2 m) from rfl, ih, keys_insert, hk]
    by_cases h : p.1 ∈ keys m
    · rw [if_pos h, List.mem_cons]
      constructor
      · rintro (h' | h')
        · exact .inl h'
        · exact .inr (.inr h')
      · rintro (h' | rfl | h')
        · exact .inl h'
        · exact .inl h
        · exact .inr h'
    · rw [if_neg h, List.mem_append, List.mem_singleton, List.mem_cons, or_assoc]

/-- A key that none of the pairs has keeps its value. -/
theorem find?_insertAll_of_notMem {k : κ} {ps : List (κ × α)} (h : k ∉ keys ps) (m : List (κ × α)) :
    find? k (insertAll ps m) = find? k m := by
  induction ps generalizing m with
  | nil => rfl
  | cons p ps ih =>
    have hk : keys (p :: ps) = p.1 :: keys ps := rfl
    rw [hk, List.mem_cons, not_or] at h
    rw [show insertAll (p :: ps) m = insertAll ps (insert p.1 p.2 m) from rfl, ih h.2, find?_insert,
      if_neg fun e => h.1 e.symm]

/-- With distinct keys, each pair ends up in the entries. -/
theorem find?_insertAll_of_mem {p : κ × α} {ps : List (κ × α)} (hn : (keys ps).Nodup) (hp : p ∈ ps)
    (m : List (κ × α)) : find? p.1 (insertAll ps m) = some p.2 := by
  induction ps generalizing m with
  | nil => cases hp
  | cons q qs ih =>
    have hk : keys (q :: qs) = q.1 :: keys qs := rfl
    rw [hk, List.nodup_cons] at hn
    rw [show insertAll (q :: qs) m = insertAll qs (insert q.1 q.2 m) from rfl]
    rcases List.mem_cons.1 hp with rfl | hp
    · rw [find?_insertAll_of_notMem hn.1, find?_insert, if_pos rfl]
    · exact ih hn.2 hp _

theorem find?_of_notMem {k : κ} {m : List (κ × α)} (h : k ∉ keys m) : find? k m = none := by
  rw [find?, Option.map_eq_none_iff, List.find?_eq_none]
  intro p hp hk
  exact h (List.mem_map.2 ⟨p, hp, of_decide_eq_true hk⟩)

/-- With distinct keys, each entry is found under its key. -/
theorem find?_of_mem {p : κ × α} {m : List (κ × α)} (hn : (keys m).Nodup) (hp : p ∈ m) :
    find? p.1 m = some p.2 := by
  induction m with
  | nil => cases hp
  | cons q qs ih =>
    have hk : keys (q :: qs) = q.1 :: keys qs := rfl
    rw [hk, List.nodup_cons] at hn
    rw [find?_cons]
    rcases List.mem_cons.1 hp with rfl | hp
    · rw [if_pos rfl]
    · have hne : q.1 ≠ p.1 := fun e => hn.1 (e ▸ List.mem_map_of_mem hp)
      rw [if_neg hne, ih hn.2 hp]

/-- A new key comes last. -/
theorem insert_of_notMem {k : κ} {m : List (κ × α)} (h : k ∉ keys m) (v : α) :
    insert k v m = m ++ [(k, v)] := by
  induction m with
  | nil => rfl
  | cons p ps ih =>
    have hk : keys (p :: ps) = p.1 :: keys ps := rfl
    rw [hk, List.mem_cons, not_or] at h
    rw [insert, if_neg fun e => h.1 e.symm, ih h.2, List.cons_append]

/-- A key that is there gets its value where it stands. -/
theorem insert_eq_map {k : κ} {m : List (κ × α)} (hn : (keys m).Nodup) (h : k ∈ keys m) (v : α) :
    insert k v m = m.map fun p => if p.1 = k then (k, v) else p := by
  induction m with
  | nil => simp [keys] at h
  | cons p ps ih =>
    have hk : keys (p :: ps) = p.1 :: keys ps := rfl
    rw [hk, List.nodup_cons] at hn
    rw [insert, List.map_cons]
    by_cases hp : p.1 = k
    · have hrest : ps.map (fun q => if q.1 = k then (k, v) else q) = ps := by
        refine (List.map_congr_left fun q hq => ?_).trans (List.map_id ps)
        have hne : q.1 ≠ k := fun e => hn.1 (hp ▸ e ▸ List.mem_map_of_mem hq)
        rw [if_neg hne, id]
      rw [if_pos hp, if_pos hp, hrest]
    · rw [hk, List.mem_cons] at h
      rw [if_neg hp, if_neg hp, ih hn.2 (h.resolve_left fun e => hp e.symm)]

/-- Pairs with distinct keys are their own entries. -/
theorem ofPairs_of_nodup {ps : List (κ × α)} (hn : (keys ps).Nodup) : ofPairs ps = ps := by
  suffices hall : ∀ m, (keys (m ++ ps)).Nodup → insertAll ps m = m ++ ps from hall [] hn
  intro m hm
  induction ps generalizing m with
  | nil => rw [List.append_nil]; rfl
  | cons p ps ih =>
    have hk : keys (p :: ps) = p.1 :: keys ps := rfl
    rw [hk, List.nodup_cons] at hn
    have hfresh : p.1 ∉ keys m := by
      rw [keys, List.map_append, List.nodup_append] at hm
      exact fun hmem => hm.2.2 _ hmem _ List.mem_cons_self rfl
    rw [show insertAll (p :: ps) m = insertAll ps (insert p.1 p.2 m) from rfl,
      insert_of_notMem hfresh, ih hn.2 _ (by rwa [List.append_assoc]), List.append_assoc]
    rfl

/-- Taking out keys before or after an entry is set: the entry goes if its key goes. -/
theorem filter_insert (p : κ → Bool) (k : κ) (v : α) (m : List (κ × α)) :
    (insert k v m).filter (fun e => p e.1) =
      if p k then insert k v (m.filter fun e => p e.1) else m.filter fun e => p e.1 := by
  induction m with
  | nil => cases hp : p k <;> simp [insert, hp]
  | cons e es ih =>
    by_cases he : e.1 = k
    · subst he
      cases hp : p e.1 <;> simp [insert, hp]
    · rw [insert, if_neg he, List.filter_cons, List.filter_cons, ih]
      cases p e.1 <;> cases p k <;> simp [insert, he]

/-- Taking out a key leaves the other entries alone. -/
theorem find?_filter_ne (k k' : κ) (m : List (κ × α)) :
    find? k' (m.filter fun e => e.1 != k) = if k = k' then none else find? k' m := by
  induction m with
  | nil => simp [find?]
  | cons e es ih =>
    by_cases he : e.1 = k
    · rw [List.filter_cons_of_neg (by simp [he]), ih, find?_cons, he]
      by_cases h : k = k' <;> simp [h]
    · rw [List.filter_cons_of_pos (by simp [he]), find?_cons, find?_cons, ih]
      by_cases h : k = k'
      · subst h
        simp [he]
      · simp [h]

end FlowWarden.Keyed
