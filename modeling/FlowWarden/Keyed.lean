/-!
# Entries under keys, in order of arrival

A list of pairs that holds each key once. Setting a key that is there replaces its value and
leaves its place; a new key comes last. Main statement: `nodup_keys_ofPairs`, what is built from
any pairs holds each key once.
-/

namespace FlowWarden.Keyed

variable {κ α : Type} [DecidableEq κ]

/-- The keys in order. -/
def keys (m : List (κ × α)) : List κ :=
  m.map Prod.fst

def insert (k : κ) (v : α) : List (κ × α) → List (κ × α)
  | [] => [(k, v)]
  | p :: ps => if p.1 = k then (k, v) :: ps else p :: insert k v ps

def find? (k : κ) (m : List (κ × α)) : Option α :=
  (m.find? fun p => p.1 = k).map Prod.snd

/-- Sets one key after another. -/
def ofPairs (ps : List (κ × α)) : List (κ × α) :=
  ps.foldl (fun m p => insert p.1 p.2 m) []

theorem keys_insert (k : κ) (v : α) (m : List (κ × α)) :
    keys (insert k v m) = if k ∈ keys m then keys m else keys m ++ [k] := by
  induction m with
  | nil => rfl
  | cons p ps ih =>
    by_cases h : p.1 = k
    · simp [insert, keys, h]
    · have h' : ¬ k = p.1 := fun e => h e.symm
      have hk : keys (insert k v (p :: ps)) = p.1 :: keys (insert k v ps) := by
        simp [insert, keys, h]
      have hc : keys (p :: ps) = p.1 :: keys ps := rfl
      rw [hk, ih, hc]
      by_cases hm : k ∈ keys ps
      · rw [if_pos hm, if_pos (List.mem_cons_of_mem _ hm)]
      · rw [if_neg hm, if_neg (by simp [h', hm]), List.cons_append]

theorem nodup_keys_insert (k : κ) (v : α) {m : List (κ × α)} (h : (keys m).Nodup) :
    (keys (insert k v m)).Nodup := by
  rw [keys_insert]
  split
  · exact h
  · next hk =>
    rw [List.nodup_append]
    refine ⟨h, by simp, ?_⟩
    intro a ha b hb hab
    simp only [List.mem_singleton] at hb
    subst hb
    exact hk (hab ▸ ha)

theorem nodup_keys_foldl (ps m : List (κ × α)) (h : (keys m).Nodup) :
    (keys (ps.foldl (fun m p => insert p.1 p.2 m) m)).Nodup := by
  induction ps generalizing m with
  | nil => exact h
  | cons p ps ih => exact ih _ (nodup_keys_insert p.1 p.2 h)

theorem nodup_keys_ofPairs (ps : List (κ × α)) : (keys (ofPairs ps)).Nodup :=
  nodup_keys_foldl ps [] (by simp [keys])

theorem find?_cons (k : κ) (p : κ × α) (ps : List (κ × α)) :
    find? k (p :: ps) = if p.1 = k then some p.2 else find? k ps := by
  by_cases h : p.1 = k <;> simp [find?, h]

theorem find?_insert (k k' : κ) (v : α) (m : List (κ × α)) :
    find? k' (insert k v m) = if k = k' then some v else find? k' m := by
  induction m with
  | nil => by_cases h : k = k' <;> simp [insert, find?, h]
  | cons p ps ih =>
    rw [insert]
    by_cases hp : p.1 = k
    · rw [if_pos hp, find?_cons, find?_cons, hp]
      by_cases h : k = k' <;> simp [h]
    · rw [if_neg hp, find?_cons, find?_cons, ih]
      by_cases h : k = k'
      · have h' : ¬ p.1 = k' := fun e => hp (e.trans h.symm)
        rw [if_neg h', if_pos h, if_pos h]
      · rw [if_neg h, if_neg h]

end FlowWarden.Keyed
