import FlowWarden.Proofs.Settings.Environment
import FlowWarden.Proofs.Settings.Fallback
import FlowWarden.Reaper.Setup
/-!
# The interval that comes out

A reaper that ran its cycles without a pause between them would never rest, so an interval that is
not above zero is replaced when a file is loaded. `load_interval` says that no file gets past this,
and that the environment does where no file is named: such settings are taken as they are
(`idle_kept`).
-/

namespace FlowWarden

/-- The integer that a variable gives, if it gives one. -/
def Environment.given? (env : Environment) (name : String) : Option Int :=
  (env name).bind fun raw => if Text.isBlankText raw then none else Text.readInteger raw

theorem Environment.integer_eq (env : Environment) (name : String) (default : Int) :
    (env.integer name default).1 = (env.given? name).getD default := by
  unfold Environment.integer Environment.given?
  cases env name with
  | none => rfl
  | some raw =>
    by_cases hblank : Text.isBlankText raw
    · simp [hblank]
    · cases hread : Text.readInteger raw <;> simp [hblank, hread]

namespace Settings

open Reaper (Clock Setup World)

/-- No file is named. -/
def Unfiled (path : Option String) : Prop :=
  path = none ∨ path = some ""

theorem load_unfiled {path : Option String} (h : Unfiled path) (s : Settings) (file : FileState) :
    s.load path file = (.ok s, []) := by
  rcases h with rfl | rfl <;> rfl

/-- Where a file is named and settings come out, the file was read as a document. -/
theorem exists_loads {env : Environment} {path : Option String} {file : FileState} {s : Settings}
    (h : ¬ Unfiled path) (hload : ((ofEnvironment env).1.load path file).1 = .ok s) :
    ∃ p d, path = some p ∧ Loads env p file d s := by
  cases path with
  | none => exact absurd (.inl rfl) h
  | some p =>
    have hp : p ≠ "" := fun hempty => h (.inr (congrArg some hempty))
    cases hread : (readFile p file).1 with
    | ok d => exact ⟨p, d, rfl, hp, hread, hload⟩
    | error f =>
      unfold load at hload
      split at hload
      next heq => cases heq
      next heq => exact absurd (Option.some.inj heq) hp
      next heq =>
        obtain rfl := Option.some.inj heq
        rw [← Prod.mk.eta (p := readFile _ file), hread] at hload
        cases hload

/-- Where there is nothing to be loaded, nothing is refused. -/
theorem not_refused_nil {base : Settings} (hb : base.Writable) : ¬ Refused base [] := by
  rintro (href | ⟨-, hlong⟩)
  · cases href with
    | integer h =>
      obtain ⟨d, hd, -⟩ := h
      cases hd
    | text h =>
      obtain ⟨d, hd, -⟩ := h
      cases hd
    | window he _ => cases he
  · have hshown : Text.isWritable base.cleanupInterval = true := hb .cleanupInterval
    have hsame : integerOr [] .cleanupInterval base.cleanupInterval = base.cleanupInterval := rfl
    rw [hsame, hshown] at hlong
    cases hlong

theorem exists_load (env : Environment) {path : Option String} {file : FileState}
    (h : Unfiled path ∨ file = .missing ∨ file = .unreadable) :
    ∃ s, ((ofEnvironment env).1.load path file).1 = .ok s := by
  by_cases hpath : Unfiled path
  · exact ⟨_, congrArg Prod.fst (load_unfiled hpath _ file)⟩
  · obtain ⟨p, rfl⟩ := Option.ne_none_iff_exists'.1 fun hnone => hpath (.inl hnone)
    have hp : p ≠ "" := fun hempty => hpath (.inr (congrArg some hempty))
    have hread : (readFile p file).1 = .ok .null := by
      rcases h.resolve_left hpath with rfl | rfl <;> rfl
    have hb := ofEnvironment_writable env
    obtain ⟨s, log, happly, -⟩ := apply_taken hb (not_refused_nil hb)
    refine ⟨s, ?_⟩
    rw [load_eq _ hp (Prod.ext hread rfl)]
    exact congrArg Prod.fst happly

theorem intervalOr_pos (n : Int) : 0 < intervalOr n := by
  unfold intervalOr
  split <;> omega

theorem begin_interval {s : Settings} {clock : Clock} {w : World}
    (h : ((Setup.ofSettings s).begin clock).1 = .ok w) :
    w.interval = .int (s.cleanupInterval * 60) := by
  obtain ⟨policy, devPodGrace, -, -, rfl⟩ := Setup.begin_eq_ok.1 h
  rfl

theorem interval_ofEnvironment (env : Environment) : (ofEnvironment env).1.cleanupInterval =
    (env.given? IntegerKey.cleanupInterval.variableName).getD 10 :=
  (get_ofEnvironment env .cleanupInterval).trans (env.integer_eq _ _)

/-- The interval among settings that come out for a path. -/
structure Scheduled (env : Environment) (path : Option String) (s : Settings) : Prop where
  /-- It is above zero, unless no file is named and the environment gives one that is not. -/
  nonpos_iff : s.cleanupInterval ≤ 0 ↔ Unfiled path ∧
    ∃ n, env.given? IntegerKey.cleanupInterval.variableName = some n ∧ n ≤ 0
  unfiled : Unfiled path →
    s.cleanupInterval = (env.given? IntegerKey.cleanupInterval.variableName).getD 10
  /-- A reaper that is set up from the settings keeps it, in seconds. -/
  kept : ∀ clock w, ((Setup.ofSettings s).begin clock).1 = .ok w →
    w.interval = .int (s.cleanupInterval * 60)

theorem scheduled_of_load (env : Environment) {path : Option String} {file : FileState}
    {s : Settings} (h : ((ofEnvironment env).1.load path file).1 = .ok s) :
    Scheduled env path s := by
  have hkept : ∀ clock w, ((Setup.ofSettings s).begin clock).1 = .ok w →
      w.interval = .int (s.cleanupInterval * 60) := fun clock w => begin_interval
  by_cases hpath : Unfiled path
  · rw [load_unfiled hpath] at h
    obtain rfl := Except.ok.inj h
    have hinterval := interval_ofEnvironment env
    refine ⟨?_, fun _ => hinterval, hkept⟩
    rw [hinterval]
    cases env.given? IntegerKey.cleanupInterval.variableName with
    | none => simp
    | some n => simp [hpath]
  · obtain ⟨p, d, rfl, hfile⟩ := exists_loads hpath h
    have hpos : 0 < s.cleanupInterval := by
      rw [hfile.taken.2.interval]
      exact intervalOr_pos _
    exact ⟨iff_of_false (Int.not_le.2 hpos) fun hnot => hpath hnot.1,
      fun hnot => absurd hnot hpath, hkept⟩

/-- What comes of a path and what is found there. -/
structure Timed (env : Environment) (path : Option String) (file : FileState)
    (result : Except Fault Settings) : Prop where
  /-- Settings come out where there is no file, or none that can be read. -/
  returns : Unfiled path ∨ file = .missing ∨ file = .unreadable → ∃ s, result = .ok s
  scheduled : ∀ s, result = .ok s → Scheduled env path s

/-- Settings that come out of a file have an interval above zero. Where no file is named the
interval is the environment's, whatever that is. -/
theorem load_interval (env : Environment) (path : Option String) (file : FileState) :
    Timed env path file ((ofEnvironment env).1.load path file).1 :=
  ⟨exists_load env, fun _ => scheduled_of_load env⟩

/-! ## An interval of zero -/

/-- An environment that asks for cycles without a pause. -/
def idle : Environment := fun name =>
  if name = IntegerKey.cleanupInterval.variableName then some "0" else none

/-- A file that is named, even one that is missing, brings the interval back to ten minutes. -/
theorem idle_scheduled :
    ((ofEnvironment idle).1.load (some "settings.yaml") .missing).1 = .ok {} ∧
      Scheduled idle (some "settings.yaml") {} := by
  have hload : ((ofEnvironment idle).1.load (some "settings.yaml") .missing).1 = .ok {} := by
    decide +kernel
  exact ⟨hload, (load_interval idle _ _).scheduled _ hload⟩

/-- Without a file the interval stays at zero, and so does that of a reaper. -/
theorem idle_kept : ∃ s, ((ofEnvironment idle).1.load none .missing).1 = .ok s ∧
    ¬ 1 ≤ s.cleanupInterval ∧
    ∀ clock, ∃ w, ((Setup.ofSettings s).begin clock).1 = .ok w ∧ w.interval = .int 0 := by
  refine ⟨{ cleanupInterval := 0 }, by decide +kernel, by decide, fun clock => ?_⟩
  have hpolicy : ((Setup.ofSettings { cleanupInterval := 0 }).policy.1).toOption.isSome = true := by
    decide +kernel
  cases hmade : (Setup.ofSettings { cleanupInterval := 0 }).policy.1 with
  | error f =>
    rw [hmade] at hpolicy
    cases hpolicy
  | ok policy => exact ⟨_, Setup.begin_eq_ok.2 ⟨policy, _, hmade, rfl, rfl⟩, rfl⟩

end Settings

end FlowWarden
