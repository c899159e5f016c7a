import FlowWarden.Proofs.Settings.Windows
/-!
# Integers in two places

The integer settings and the minutes of windows take the values of a file for integers in two ways.
`conversions_agree` compares them on every value. Both take the same integer, both ignore the
value, or both fail, unless the value is a truth value: a setting ignores that, and a window takes
it for one minute or none (`truth_parted`).
-/

namespace FlowWarden.Settings

/-! ## What becomes of a value -/

/-- A value in the place of an integer is taken for one, or ignored with a warning, or nothing comes
out at all. -/
inductive Treatment
  | taken (n : Int)
  | ignored
  | refused (f : Fault)
deriving DecidableEq, Repr

namespace Treatment

def integer? : Treatment → Option Int
  | taken n => some n
  | ignored | refused _ => none

/-- What comes out of a place that holds `kept` before, and `put n` once it is given `n`. -/
def outcome {α : Type} (put : Int → α) (kept : α) (warning : Log.Record) :
    Treatment → Except Fault α × List Log.Record
  | taken n => (.ok (put n), [])
  | ignored => (.ok kept, [warning])
  | refused f => (.error f, [])

end Treatment

/-- The treatment of a value that a conversion made into an integer or not. -/
def treatment (v : Document) : Except NotInteger Int → Treatment
  | .ok n => .taken n
  | .error .infinite => .refused .infinite
  | .error .malformed => if v.isWritable then .ignored else .refused .unwritable

variable {v : Document}

theorem integer?_treatment (v : Document) (r : Except NotInteger Int) :
    (treatment v r).integer? = r.toOption := by
  cases r with
  | ok n => rfl
  | error e =>
    cases e with
    | infinite => rfl
    | malformed => cases hshown : v.isWritable <;> simp [treatment, hshown] <;> rfl

theorem treatment_refused {r : Except NotInteger Int} {f : Fault} (h : treatment v r = .refused f) :
    r = .error .infinite ∨ r = .error .malformed ∧ v.isWritable = false := by
  cases r with
  | ok n => cases h
  | error e =>
    cases e with
    | infinite => exact .inl rfl
    | malformed =>
      refine .inr ⟨rfl, ?_⟩
      cases hshown : v.isWritable with
      | false => rfl
      | true => simp [treatment, hshown] at h

/-! ## One value -/

/-- The warning about a value that an integer setting ignores. -/
def settingWarning (k : IntegerKey) (v : Document) (kept : Int) : Log.Record :=
  warn ("Invalid value for " ++ k.name ++ ": " ++ v.literal ++ ", using default " ++ toString kept)

/-- The warning about a value that is ignored as a window. -/
def windowWarning (name v : Document) : Log.Record :=
  warn ("Invalid staleness window for " ++ name.display ++ ": " ++ v.literal ++ ", ignoring")

theorem applyInteger_treated {entries : List (Document × Document)} {k : IntegerKey} {s : Settings}
    (hv : Document.field? k.name entries = some v) (hs : Text.isWritable (k.get s) = true) :
    applyInteger entries k s = (treatment v (settingInteger v)).outcome (fun n => k.set s n) s
      (settingWarning k v (k.get s)) := by
  unfold applyInteger
  rw [hv]
  dsimp only
  cases settingInteger v with
  | ok n => rfl
  | error e =>
    cases e with
    | infinite => rfl
    | malformed =>
      cases hshown : v.isWritable <;>
        simp [treatment, Treatment.outcome, settingWarning, hshown, hs]

theorem applyWindow_treated (ws : List (String × Int)) {name : Document}
    (hname : name.isWritable = true) :
    applyWindow ws name v = (treatment v (asInteger v)).outcome
      (fun n => Keyed.insert (Text.upper name.display) n ws) ws (windowWarning name v) := by
  unfold applyWindow
  cases asInteger v with
  | ok n => simp [treatment, Treatment.outcome, hname]
  | error e =>
    cases e with
    | infinite => rfl
    | malformed =>
      cases hshown : v.isWritable <;>
        simp [treatment, Treatment.outcome, windowWarning, hshown, hname]

/-! ## A value in a file -/

section

variable {env : Environment} {path : String} {file : FileState} {d : Document} {s : Settings}

/-- An integer setting that is given `n`. -/
def IntegerKey.settle (k : IntegerKey) (n : Int) : Int :=
  if k = .cleanupInterval then intervalOr n else n

theorem Loads.setting (h : Loads env path file d s) {k : IntegerKey}
    (hv : Document.field? k.name (entriesOf path d).1 = some v) :
    (∀ f, treatment v (settingInteger v) ≠ .refused f) ∧
      k.get s = k.settle ((treatment v (settingInteger v)).integer?.getD
        (k.get (ofEnvironment env).1)) := by
  obtain ⟨hsound, hloaded⟩ := h.taken
  have hinteger (n : Int) : integerOr (entriesOf path d).1 k n =
      (treatment v (settingInteger v)).integer?.getD n := by
    rw [integer?_treatment]
    simp only [integerOr, hv]
  refine ⟨fun f hf => hsound (.inl (.integer ⟨v, hv, ?_⟩)), ?_⟩
  · exact (treatment_refused hf).imp_left settingInteger_infinite.1
  · rw [← hinteger, IntegerKey.settle]
    split
    next hk =>
      subst hk
      exact hloaded.interval
    next hk => exact hloaded.integers k hk

/-- An entry that is the only one under its name sets the minutes if it can. -/
theorem minutesSet?_of_mem {es : List (Document × Document)} {name : Document} {key : String}
    (hmem : (name, v) ∈ es) (hkey : Text.upper name.display = key)
    (honly : ∀ e ∈ es, Text.upper e.1.display = key → e.2 = v) :
    minutesSet? es key = (asInteger v).toOption := by
  cases hset : minutesSet? es key with
  | none =>
    have hself := List.findSome?_eq_none_iff.1 hset _ (List.mem_reverse.2 hmem)
    rw [if_pos hkey] at hself
    exact hself.symm
  | some n =>
    obtain ⟨e, he, hn⟩ := List.exists_of_findSome?_eq_some hset
    by_cases hname : Text.upper e.1.display = key
    · rw [if_pos hname, honly e (List.mem_reverse.1 he) hname] at hn
      exact hn.symm
    · rw [if_neg hname] at hn
      cases hn

theorem Loads.window (h : Loads env path file d s) {name : Document}
    (hmem : (name, v) ∈ windowEntries (entriesOf path d).1)
    (honly : ∀ e ∈ windowEntries (entriesOf path d).1,
      Text.upper e.1.display = Text.upper name.display → e.2 = v) :
    (∀ f, treatment v (asInteger v) ≠ .refused f) ∧
      Keyed.find? (Text.upper name.display) s.windows =
        (treatment v (asInteger v)).integer? := by
  obtain ⟨hsound, hloaded⟩ := h.taken
  have hwindows := hloaded.windows
  rw [windows_ofEnvironment] at hwindows
  refine ⟨fun f hf => hsound (.inl (.window hmem ?_)), ?_⟩
  · exact (treatment_refused hf).imp asInteger_infinite.1 .inr
  · rw [hwindows, find?_windows, integer?_treatment]
    exact minutesSet?_of_mem hmem rfl honly

end

/-! ## The two ways -/

/-- A setting treats the value `v` in the way `t`, and a window in the way `t'`. -/
structure Conversions (v : Document) (t t' : Treatment) : Prop where
  setting : ∀ {entries s} {k : IntegerKey}, Document.field? k.name entries = some v →
    Text.isWritable (k.get s) = true →
    applyInteger entries k s = t.outcome (fun n => k.set s n) s (settingWarning k v (k.get s))
  window : ∀ ws {name : Document}, name.isWritable = true →
    applyWindow ws name v = t'.outcome (fun n => Keyed.insert (Text.upper name.display) n ws) ws
      (windowWarning name v)
  agree_iff : t = t' ↔ ∀ b, v ≠ .bool b
  truth : ∀ b, v = .bool b → t = .ignored ∧ t' = .taken (if b then 1 else 0)
  /-- A setting has its integer when the file is loaded, or else that of the environment. -/
  settled : ∀ {env path file d s} {k : IntegerKey}, Loads env path file d s →
    Document.field? k.name (entriesOf path d).1 = some v →
    (∀ f, t ≠ .refused f) ∧
      k.get s = k.settle (t.integer?.getD (k.get (ofEnvironment env).1))
  /-- A window is set when the file is loaded, or else there is none under its name. -/
  stored : ∀ {env path file d s} {name : Document}, Loads env path file d s →
    (name, v) ∈ windowEntries (entriesOf path d).1 →
    (∀ e ∈ windowEntries (entriesOf path d).1,
      Text.upper e.1.display = Text.upper name.display → e.2 = v) →
    (∀ f, t' ≠ .refused f) ∧ Keyed.find? (Text.upper name.display) s.windows = t'.integer?

theorem settingInteger_eq (h : ∀ b, v ≠ .bool b) : settingInteger v = asInteger v := by
  cases v with
  | bool b => exact absurd rfl (h b)
  | _ => rfl

/-- A setting and a window take the same values for the same integers, and ignore and refuse the
same ones, but for truth values. -/
theorem conversions_agree (v : Document) :
    Conversions v (treatment v (settingInteger v)) (treatment v (asInteger v)) where
  setting := applyInteger_treated
  window := applyWindow_treated
  agree_iff := by
    constructor
    · rintro hsame b rfl
      cases hsame
    · intro h
      rw [settingInteger_eq h]
  truth := by
    rintro b rfl
    exact ⟨rfl, rfl⟩
  settled := fun h hv => h.setting hv
  stored := fun h hmem honly => h.window hmem honly

/-! ## A truth value -/

def truthEntries : List (Document × Document) :=
  [(.text "max_flow_running_minutes", .bool true),
    (.text "staleness_windows", .map [(.text "KILLING", .bool true)])]

/-- The setting is left alone, and the window is one minute. -/
theorem truth_parted :
    apply truthEntries {} = (.ok { windows := [("KILLING", 1)] },
        [warn "Invalid value for max_flow_running_minutes: True, using default -1"]) ∧
      treatment (.bool true) (settingInteger (.bool true)) = .ignored ∧
      treatment (.bool true) (asInteger (.bool true)) = .taken 1 :=
  ⟨by decide +kernel, rfl, rfl⟩

end FlowWarden.Settings
