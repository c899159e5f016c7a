import FlowWarden.Proofs.Settings.Writable
/-!
# What the environment sets

Each integer setting is what its own variable says, or else its default, and the environment sets
no windows.
-/

namespace FlowWarden.Settings

theorem get_readIntegers (env : Environment) {ks : List IntegerKey} (hn : ks.Nodup) (s : Settings)
    (k : IntegerKey) : k.get (readIntegers env ks s).1 =
      if k ∈ ks then (env.integer k.variableName (k.get s)).1 else k.get s := by
  induction ks generalizing s with
  | nil => rfl
  | cons k' ks ih =>
    obtain ⟨hk', hn⟩ := List.nodup_cons.1 hn
    have hstep : (readIntegers env (k' :: ks) s).1 =
        (readIntegers env ks (k'.set s (env.integer k'.variableName (k'.get s)).1)).1 := rfl
    rw [hstep, ih hn, IntegerKey.get_set]
    by_cases hk : k' = k
    · subst hk
      simp [hk']
    · simp [hk, Ne.symm hk]

theorem get_ofEnvironment (env : Environment) (k : IntegerKey) :
    k.get (ofEnvironment env).1 = (env.integer k.variableName (k.get {})).1 := by
  have hall : k ∈ IntegerKey.all := by cases k <;> decide
  rw [ofEnvironment, get_readIntegers env (by decide), if_pos hall, readTexts_integers]

theorem windows_readIntegers (env : Environment) (ks : List IntegerKey) (s : Settings) :
    (readIntegers env ks s).1.windows = s.windows := by
  induction ks generalizing s with
  | nil => rfl
  | cons k ks ih => exact (ih _).trans (IntegerKey.windows_set _ _ _)

theorem windows_readTexts (env : Environment) (s : Settings) :
    (readTexts env s).windows = s.windows := by
  unfold readTexts
  generalize TextKey.all = ks
  induction ks generalizing s with
  | nil => rfl
  | cons k ks ih =>
    rw [List.foldl_cons, ih]
    cases env k.variableName with
    | none => rfl
    | some text => exact TextKey.windows_set s text k

theorem windows_ofEnvironment (env : Environment) : (ofEnvironment env).1.windows = [] := by
  rw [ofEnvironment, windows_readIntegers, windows_readTexts]

end FlowWarden.Settings
