import FlowWarden.Proofs.Text.Integer
import FlowWarden.Settings.Environment
/-!
# Settings that can be shown

An integer that was read can be written again, so a warning can show every integer that the
environment gives: `ofEnvironment_writable`.
-/

namespace FlowWarden

namespace Settings

/-- Every integer among the settings can be written. -/
def Writable (s : Settings) : Prop :=
  ∀ k : IntegerKey, Text.isWritable (k.get s) = true

theorem Writable.set {s : Settings} {n : Int} (h : s.Writable) (hn : Text.isWritable n = true)
    (k : IntegerKey) : (k.set s n).Writable := by
  intro k'
  rw [IntegerKey.get_set]
  by_cases hk : k = k'
  · rw [if_pos hk]
    exact hn
  · rw [if_neg hk]
    exact h k'

theorem integer_writable (env : Environment) (name : String) {default : Int}
    (h : Text.isWritable default = true) : Text.isWritable (env.integer name default).1 = true := by
  unfold Environment.integer
  split
  next => exact h
  next raw _ =>
    split
    next => exact h
    next =>
      split
      next n hn => exact Text.readInteger_writable hn
      next => exact h

theorem readIntegers_writable (env : Environment) (ks : List IntegerKey) {s : Settings}
    (h : s.Writable) : (readIntegers env ks s).1.Writable := by
  induction ks generalizing s with
  | nil => exact h
  | cons k ks ih => exact ih (h.set (integer_writable env _ (h k)) k)

theorem IntegerKey.get_setText (s : Settings) (text : String) (k : IntegerKey) (k' : TextKey) :
    k.get (k'.set s text) = k.get s := by
  cases k' <;> cases k <;> rfl

theorem readTexts_integers (env : Environment) (s : Settings) (k : IntegerKey) :
    k.get (readTexts env s) = k.get s := by
  unfold readTexts
  generalize TextKey.all = ks
  induction ks generalizing s with
  | nil => rfl
  | cons k' ks ih =>
    rw [List.foldl_cons, ih]
    cases env k'.variableName with
    | none => rfl
    | some text => exact k.get_setText s text k'

/-- The settings of an environment can be shown in a warning. -/
theorem ofEnvironment_writable (env : Environment) : (ofEnvironment env).1.Writable := by
  apply readIntegers_writable
  intro k
  rw [readTexts_integers]
  cases k <;> decide +kernel

end Settings

end FlowWarden
