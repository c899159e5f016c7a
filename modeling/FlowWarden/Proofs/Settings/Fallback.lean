import FlowWarden.Proofs.Keyed
import FlowWarden.Proofs.Settings.Writable
import FlowWarden.Settings.Load
import Mathlib
/-!
# Settings that fall back

A value of a settings file that is malformed leaves its own setting as the environment has it, and
no other setting notices: `load_resolved`. The exceptions are the values that are refused, and they
are all listed in `Refused`: an infinite number in the place of an integer, and an integer too long
to be shown in a text or a warning.
-/

namespace FlowWarden

namespace Settings

/-! ## Values in the place of integers -/

/-- An infinite number. -/
def IsInfinite (d : Document) : Prop :=
  ∃ x negative, d = .float x ∧ Binary64.classify x = .infinite negative

theorem asInteger_infinite {d : Document} : asInteger d = .error .infinite ↔ IsInfinite d := by
  cases d with
  | float x => cases h : Binary64.classify x <;> simp [asInteger, IsInfinite, h]
  | text t =>
    cases h : Text.readInteger t <;> simp [asInteger, IsInfinite, h]
  | _ => simp [asInteger, IsInfinite]

theorem settingInteger_infinite {d : Document} :
    settingInteger d = .error .infinite ↔ IsInfinite d := by
  cases d with
  | bool b => simp [settingInteger, IsInfinite]
  | _ =>
    rw [← asInteger_infinite]
    rfl

section

variable (entries : List (Document × Document))

/-- The value that the entries give an integer setting, or the one that it has. -/
def integerOr (k : IntegerKey) (n : Int) : Int :=
  match Document.field? k.name entries with
  | none => n
  | some d => (settingInteger d).toOption.getD n

/-- The warning about a malformed value of an integer setting, which keeps the value `n`. -/
def integerWarnings (k : IntegerKey) (n : Int) : List Log.Record :=
  match Document.field? k.name entries with
  | none => []
  | some d => match settingInteger d with
    | .ok _ => []
    | .error _ => [warn ("Invalid value for " ++ k.name ++ ": " ++ d.literal ++
        ", using default " ++ toString n)]

/-- The value of an integer setting is infinite, or it is malformed and cannot be shown. -/
def RefusesInteger (k : IntegerKey) : Prop :=
  ∃ d, Document.field? k.name entries = some d ∧
    (IsInfinite d ∨ settingInteger d = .error .malformed ∧ d.isWritable = false)

end

variable {entries : List (Document × Document)} {s : Settings}

theorem IntegerKey.set_get (s : Settings) (k : IntegerKey) : k.set s (k.get s) = s := by
  cases k <;> rfl

theorem applyInteger_refused {k : IntegerKey} (h : RefusesInteger entries k) (s : Settings) :
    ∃ f, applyInteger entries k s = (.error f, []) := by
  obtain ⟨d, hd, hinf | ⟨hbad, hlong⟩⟩ := h
  · refine ⟨.infinite, ?_⟩
    simp only [applyInteger, hd, settingInteger_infinite.2 hinf]
  · refine ⟨.unwritable, ?_⟩
    simp [applyInteger, hd, hbad, hlong]

theorem applyInteger_taken {k : IntegerKey} (h : ¬ RefusesInteger entries k)
    (hs : Text.isWritable (k.get s) = true) :
    applyInteger entries k s =
      (.ok (k.set s (integerOr entries k (k.get s))), integerWarnings entries k (k.get s)) := by
  unfold applyInteger integerOr integerWarnings
  cases hd : Document.field? k.name entries with
  | none =>
    dsimp only
    rw [k.set_get]
  | some d =>
    dsimp only
    cases hn : settingInteger d with
    | ok n => rfl
    | error e =>
      cases e with
      | infinite => exact absurd ⟨d, hd, .inl (settingInteger_infinite.1 hn)⟩ h
      | malformed =>
        have hshown : d.isWritable = true := by
          rw [← Bool.not_eq_false]
          exact fun hlong => h ⟨d, hd, .inr ⟨hn, hlong⟩⟩
        have hkept : (Except.error NotInteger.malformed : Except NotInteger Int).toOption.getD
            (k.get s) = k.get s := rfl
        rw [hshown, hs, hkept, k.set_get]
        rfl

/-- The settings with what the entries give the integers. -/
def setIntegers (entries : List (Document × Document)) (ks : List IntegerKey) (s : Settings) :
    Settings :=
  ks.foldl (fun s k => k.set s (integerOr entries k (k.get s))) s

theorem applyIntegers_refused {ks : List IntegerKey} (h : ∃ k ∈ ks, RefusesInteger entries k)
    (s : Settings) : ∃ f log, applyIntegers entries ks s = (.error f, log) := by
  induction ks generalizing s with
  | nil => simp at h
  | cons k ks ih =>
    unfold applyIntegers
    rcases happly : applyInteger entries k s with ⟨f | s', log⟩
    · exact ⟨f, log, rfl⟩
    · obtain ⟨k', hk', href⟩ := h
      rcases List.mem_cons.1 hk' with rfl | hk'
      · obtain ⟨f, hf⟩ := applyInteger_refused href s
        rw [happly] at hf
        cases hf
      · obtain ⟨f, more, hmore⟩ := ih ⟨k', hk', href⟩ s'
        refine ⟨f, log ++ more, ?_⟩
        dsimp only
        rw [hmore]

theorem applyIntegers_taken {ks : List IntegerKey} (hn : ks.Nodup)
    (h : ∀ k ∈ ks, ¬ RefusesInteger entries k) (hs : ∀ k ∈ ks, Text.isWritable (k.get s) = true) :
    applyIntegers entries ks s = (.ok (setIntegers entries ks s),
      ks.flatMap fun k => integerWarnings entries k (k.get s)) := by
  induction ks generalizing s with
  | nil => rfl
  | cons k ks ih =>
    obtain ⟨hk, hn⟩ := List.nodup_cons.1 hn
    -- The other settings do not notice what becomes of the first one.
    have hsame : ∀ k' ∈ ks, k'.get (k.set s (integerOr entries k (k.get s))) = k'.get s := by
      intro k' hk'
      rw [IntegerKey.get_set, if_neg]
      rintro rfl
      exact hk hk'
    have hrest := ih hn (fun k' hk' => h k' (List.mem_cons_of_mem _ hk'))
      (s := k.set s (integerOr entries k (k.get s))) (by
        intro k' hk'
        rw [hsame k' hk']
        exact hs k' (List.mem_cons_of_mem _ hk'))
    have hwarnings : (ks.flatMap fun k' =>
        integerWarnings entries k' (k'.get (k.set s (integerOr entries k (k.get s))))) =
        ks.flatMap fun k' => integerWarnings entries k' (k'.get s) := by
      apply List.flatMap_congr
      intro k' hk'
      rw [hsame k' hk']
    rw [hwarnings] at hrest
    unfold applyIntegers
    rw [applyInteger_taken (h k List.mem_cons_self) (hs k List.mem_cons_self)]
    dsimp only
    rw [hrest, List.flatMap_cons]
    rfl

theorem get_setIntegers {ks : List IntegerKey} (hn : ks.Nodup) (k : IntegerKey) :
    k.get (setIntegers entries ks s) =
      if k ∈ ks then integerOr entries k (k.get s) else k.get s := by
  induction ks generalizing s with
  | nil => rfl
  | cons k' ks ih =>
    obtain ⟨hk', hn⟩ := List.nodup_cons.1 hn
    have hfold : setIntegers entries (k' :: ks) s =
        setIntegers entries ks (k'.set s (integerOr entries k' (k'.get s))) := rfl
    rw [hfold, ih hn, IntegerKey.get_set]
    by_cases hk : k' = k
    · subst hk
      simp [hk']
    · simp [hk, Ne.symm hk]

theorem setIntegers_frame (ks : List IntegerKey) (s : Settings) :
    (∀ k : TextKey, k.get (setIntegers entries ks s) = k.get s) ∧
      (setIntegers entries ks s).windows = s.windows := by
  induction ks generalizing s with
  | nil => exact ⟨fun _ => rfl, rfl⟩
  | cons k ks ih =>
    obtain ⟨htexts, hwindows⟩ := ih (k.set s (integerOr entries k (k.get s)))
    have hframe : ∀ k' : TextKey, k'.get (k.set s (integerOr entries k (k.get s))) = k'.get s := by
      intro k'
      cases k <;> cases k' <;> rfl
    exact ⟨fun k' => (htexts k').trans (hframe k'), hwindows.trans (IntegerKey.windows_set _ _ _)⟩

/-! ## Texts -/

/-- The text that the entries give a setting, or the one that it has. -/
def textOr (entries : List (Document × Document)) (k : TextKey) (text : Option String) :
    Option String :=
  match Document.field? k.name entries with
  | none | some .null => text
  | some d => some d.display

/-- The value of a text setting cannot be shown. -/
def RefusesText (entries : List (Document × Document)) (k : TextKey) : Prop :=
  ∃ d, Document.field? k.name entries = some d ∧ d.isWritable = false

theorem applyText_refused {k : TextKey} (h : RefusesText entries k) (s : Settings) :
    applyText entries k s = .error .unwritable := by
  obtain ⟨d, hd, hlong⟩ := h
  unfold applyText
  rw [hd]
  cases d <;> simp_all [Document.isWritable]

/-- The settings with what the entries give one text. -/
def setText (entries : List (Document × Document)) (s : Settings) (k : TextKey) : Settings :=
  match Document.field? k.name entries with
  | none | some .null => s
  | some d => k.set s d.display

theorem applyText_taken {k : TextKey} (h : ¬ RefusesText entries k) (s : Settings) :
    applyText entries k s = .ok (setText entries s k) := by
  unfold applyText setText
  cases hd : Document.field? k.name entries with
  | none => rfl
  | some d =>
    have hshown : d.isWritable = true := by
      rw [← Bool.not_eq_false]
      exact fun hlong => h ⟨d, hd, hlong⟩
    cases d <;> simp_all

theorem get_setText (s : Settings) (k k' : TextKey) :
    k'.get (setText entries s k) = if k = k' then textOr entries k (k.get s) else k'.get s := by
  have hsame : (if k = k' then k.get s else k'.get s) = k'.get s := by
    split
    next hk => rw [hk]
    next => rfl
  unfold setText textOr
  split
  · exact hsame.symm
  · exact hsame.symm
  · exact TextKey.get_set ..

theorem setText_frame (entries : List (Document × Document)) (s : Settings) (k : TextKey) :
    (∀ k' : IntegerKey, k'.get (setText entries s k) = k'.get s) ∧
      (setText entries s k).windows = s.windows := by
  unfold setText
  split
  · exact ⟨fun _ => rfl, rfl⟩
  · exact ⟨fun _ => rfl, rfl⟩
  · exact ⟨fun k' => k'.get_setText _ _ _, TextKey.windows_set _ _ _⟩

theorem applyTexts_refused {ks : List TextKey} (h : ∃ k ∈ ks, RefusesText entries k)
    (s : Settings) : ∃ f, applyTexts entries ks s = .error f := by
  induction ks generalizing s with
  | nil => simp at h
  | cons k ks ih =>
    unfold applyTexts
    rcases happly : applyText entries k s with f | s'
    · exact ⟨f, rfl⟩
    · obtain ⟨k', hk', href⟩ := h
      rcases List.mem_cons.1 hk' with rfl | hk'
      · rw [applyText_refused href] at happly
        cases happly
      · exact ih ⟨k', hk', href⟩ s'

theorem applyTexts_taken {ks : List TextKey} (h : ∀ k ∈ ks, ¬ RefusesText entries k)
    (s : Settings) : applyTexts entries ks s = .ok (ks.foldl (setText entries) s) := by
  induction ks generalizing s with
  | nil => rfl
  | cons k ks ih =>
    unfold applyTexts
    rw [applyText_taken (h k List.mem_cons_self)]
    exact ih (fun k' hk' => h k' (List.mem_cons_of_mem _ hk')) _

theorem get_setTexts {ks : List TextKey} (hn : ks.Nodup) (s : Settings) (k : TextKey) :
    k.get (ks.foldl (setText entries) s) =
      if k ∈ ks then textOr entries k (k.get s) else k.get s := by
  induction ks generalizing s with
  | nil => rfl
  | cons k' ks ih =>
    obtain ⟨hk', hn⟩ := List.nodup_cons.1 hn
    rw [List.foldl_cons, ih hn, get_setText]
    by_cases hk : k' = k
    · subst hk
      simp [hk']
    · simp [hk, Ne.symm hk]

theorem setTexts_frame (ks : List TextKey) (s : Settings) :
    (∀ k : IntegerKey, k.get (ks.foldl (setText entries) s) = k.get s) ∧
      (ks.foldl (setText entries) s).windows = s.windows := by
  induction ks generalizing s with
  | nil => exact ⟨fun _ => rfl, rfl⟩
  | cons k ks ih =>
    obtain ⟨hintegers, hwindows⟩ := ih (setText entries s k)
    obtain ⟨hintegers', hwindows'⟩ := setText_frame entries s k
    exact ⟨fun k' => (hintegers k').trans (hintegers' k'), hwindows.trans hwindows'⟩

/-! ## Windows -/

/-- The entries that give windows. -/
def windowEntries (entries : List (Document × Document)) : List (Document × Document) :=
  match Document.field? "staleness_windows" entries with
  | some (.map es) => es
  | _ => []

/-- The window that an entry gives, if its minutes are an integer. -/
def window? (e : Document × Document) : Option (String × Int) :=
  (asInteger e.2).toOption.map fun n => (Text.upper e.1.display, n)

/-- The warning about an entry whose minutes are malformed. -/
def windowWarnings (e : Document × Document) : List Log.Record :=
  match asInteger e.2 with
  | .ok _ => []
  | .error _ => [warn ("Invalid staleness window for " ++ e.1.display ++ ": " ++ e.2.literal ++
      ", ignoring")]

/-- The minutes of an entry are infinite, or something of it cannot be shown. -/
def RefusesWindow (e : Document × Document) : Prop :=
  IsInfinite e.2 ∨ e.1.isWritable = false ∨
    asInteger e.2 = .error .malformed ∧ e.2.isWritable = false

theorem applyWindow_refused {e : Document × Document} (h : RefusesWindow e)
    (ws : List (String × Int)) : ∃ f, applyWindow ws e.1 e.2 = (.error f, []) := by
  unfold applyWindow
  rcases h with hinf | hname | ⟨hbad, hlong⟩
  · rw [asInteger_infinite.2 hinf]
    exact ⟨_, rfl⟩
  · rw [hname]
    split
    · exact ⟨_, rfl⟩
    · exact ⟨_, rfl⟩
    · exact ⟨_, rfl⟩
  · rw [hbad, hlong, Bool.and_false]
    exact ⟨_, rfl⟩

theorem applyWindow_taken {e : Document × Document} (h : ¬ RefusesWindow e)
    (ws : List (String × Int)) :
    applyWindow ws e.1 e.2 = (.ok (Keyed.insertAll (window? e).toList ws), windowWarnings e) := by
  unfold applyWindow window? windowWarnings
  simp only [RefusesWindow, not_or, not_and, Bool.not_eq_false] at h
  obtain ⟨hfinite, hname, hshown⟩ := h
  cases hn : asInteger e.2 with
  | ok n =>
    dsimp only
    rw [hname]
    rfl
  | error f =>
    cases f with
    | infinite => exact absurd (asInteger_infinite.1 hn) hfinite
    | malformed =>
      dsimp only
      rw [hname, hshown hn]
      rfl

theorem applyWindows_refused {es : List (Document × Document)} (h : ∃ e ∈ es, RefusesWindow e)
    (ws : List (String × Int)) : ∃ f log, applyWindows es ws = (.error f, log) := by
  induction es generalizing ws with
  | nil => simp at h
  | cons e es ih =>
    unfold applyWindows
    rcases happly : applyWindow ws e.1 e.2 with ⟨f | ws', log⟩
    · exact ⟨f, log, rfl⟩
    · obtain ⟨e', he', href⟩ := h
      rcases List.mem_cons.1 he' with rfl | he'
      · obtain ⟨f, hf⟩ := applyWindow_refused href ws
        rw [happly] at hf
        cases hf
      · obtain ⟨f, more, hmore⟩ := ih ⟨e', he', href⟩ ws'
        refine ⟨f, log ++ more, ?_⟩
        dsimp only
        rw [hmore]

theorem applyWindows_taken {es : List (Document × Document)} (h : ∀ e ∈ es, ¬ RefusesWindow e)
    (ws : List (String × Int)) :
    applyWindows es ws =
      (.ok (Keyed.insertAll (es.filterMap window?) ws), es.flatMap windowWarnings) := by
  induction es generalizing ws with
  | nil => rfl
  | cons e es ih =>
    unfold applyWindows
    rw [applyWindow_taken (h e List.mem_cons_self)]
    dsimp only
    rw [ih (fun e' he' => h e' (List.mem_cons_of_mem _ he')), ← Keyed.insertAll_append,
      List.flatMap_cons]
    have hmore : (window? e).toList ++ es.filterMap window? = (e :: es).filterMap window? := by
      rw [List.filterMap_cons]
      cases window? e <;> rfl
    rw [hmore]

theorem readWindows_refused (h : ∃ e ∈ windowEntries entries, RefusesWindow e) (s : Settings) :
    ∃ f log, readWindows entries s = (.error f, log) := by
  unfold windowEntries at h
  unfold readWindows
  split at h
  next es hes =>
    obtain ⟨f, log, happly⟩ := applyWindows_refused h s.windows
    rw [hes]
    dsimp only
    rw [happly]
    exact ⟨f, log, rfl⟩
  next => simp at h

theorem readWindows_taken (h : ∀ e ∈ windowEntries entries, ¬ RefusesWindow e) (s : Settings) :
    ∃ log, readWindows entries s = (.ok { s with
        windows := Keyed.insertAll ((windowEntries entries).filterMap window?) s.windows }, log) ∧
      ∀ e ∈ windowEntries entries, windowWarnings e ⊆ log := by
  unfold windowEntries at h ⊢
  unfold readWindows
  split at h
  next es hes =>
    rw [hes]
    dsimp only
    rw [applyWindows_taken h]
    exact ⟨_, rfl, fun e he w hw => List.mem_flatMap.2 ⟨e, he, hw⟩⟩
  next hother =>
    split
    · exact ⟨_, rfl, by simp⟩
    · exact ⟨_, rfl, by simp⟩
    · exact absurd ‹_› (hother _)
    · exact ⟨_, rfl, by simp⟩

/-! ## The interval -/

/-- The interval that a cycle runs at. One that is not above zero is replaced. -/
def intervalOr (n : Int) : Int :=
  if 0 < n then n else 10

theorem withInterval_refused {s : Settings} (h : s.cleanupInterval ≤ 0)
    (hlong : Text.isWritable s.cleanupInterval = false) :
    withInterval s = (.error .unwritable, []) := by
  unfold withInterval
  rw [if_neg (by omega), hlong]
  rfl

theorem withInterval_taken {s : Settings}
    (h : s.cleanupInterval ≤ 0 → Text.isWritable s.cleanupInterval = true) :
    ∃ log, withInterval s =
      (.ok { s with cleanupInterval := intervalOr s.cleanupInterval }, log) := by
  unfold withInterval intervalOr
  by_cases hpos : 0 < s.cleanupInterval
  · rw [if_pos hpos, if_pos hpos]
    exact ⟨[], rfl⟩
  · rw [if_neg hpos, if_neg hpos, h (by omega)]
    exact ⟨_, rfl⟩

/-! ## The whole file -/

/-- A value of the entries is refused, whatever the settings are that they are applied to. -/
inductive Refuses (entries : List (Document × Document)) : Prop
  | integer {k} : RefusesInteger entries k → Refuses entries
  | text {k} : RefusesText entries k → Refuses entries
  | window {e} : e ∈ windowEntries entries → RefusesWindow e → Refuses entries

/-- The values that keep a file from being loaded. An interval that is not above zero is shown. -/
def Refused (base : Settings) (entries : List (Document × Document)) : Prop :=
  Refuses entries ∨
    integerOr entries .cleanupInterval base.cleanupInterval ≤ 0 ∧
      Text.isWritable (integerOr entries .cleanupInterval base.cleanupInterval) = false

/-- The settings `s` are those of `base`, but for what the entries set well. Each of them depends on
its own value alone. -/
structure Loaded (base : Settings) (entries : List (Document × Document)) (s : Settings)
    (log : List Log.Record) : Prop where
  integers : ∀ k, k ≠ .cleanupInterval → k.get s = integerOr entries k (k.get base)
  interval : s.cleanupInterval =
    intervalOr (integerOr entries .cleanupInterval base.cleanupInterval)
  texts : ∀ k : TextKey, k.get s = textOr entries k (k.get base)
  windows : s.windows = Keyed.insertAll ((windowEntries entries).filterMap window?) base.windows
  /-- A malformed value is reported. -/
  integerWarned : ∀ k, integerWarnings entries k (k.get base) ⊆ log
  windowWarned : ∀ e ∈ windowEntries entries, windowWarnings e ⊆ log

theorem IntegerKey.mem_all (k : IntegerKey) : k ∈ IntegerKey.all := by
  cases k <;> decide

theorem TextKey.mem_all (k : TextKey) : k ∈ TextKey.all := by
  cases k <;> decide

theorem apply_refuses (h : Refuses entries) (base : Settings) :
    ∃ f log, apply entries base = (.error f, log) := by
  unfold apply
  rcases hintegers : applyIntegers entries IntegerKey.all base with ⟨f | s, log⟩
  · exact ⟨f, log, rfl⟩
  dsimp only
  rcases htexts : applyTexts entries TextKey.all s with f | s'
  · exact ⟨f, log, rfl⟩
  dsimp only
  rcases hwindows : readWindows entries s' with ⟨f | s'', more⟩
  · exact ⟨f, log ++ more, rfl⟩
  -- None of the three can have gone well.
  cases h with
  | @integer k hk =>
    obtain ⟨f, log', hf⟩ := applyIntegers_refused ⟨k, k.mem_all, hk⟩ base
    rw [hintegers] at hf
    cases hf
  | @text k hk =>
    obtain ⟨f, hf⟩ := applyTexts_refused ⟨k, k.mem_all, hk⟩ s
    rw [htexts] at hf
    cases hf
  | window he hr =>
    obtain ⟨f, log', hf⟩ := readWindows_refused ⟨_, he, hr⟩ s'
    rw [hwindows] at hf
    cases hf

/-- The settings before the interval is looked at. -/
def prepared (base : Settings) (entries : List (Document × Document)) : Settings :=
  let s := TextKey.all.foldl (setText entries) (setIntegers entries IntegerKey.all base)
  { s with windows := Keyed.insertAll ((windowEntries entries).filterMap window?) s.windows }

theorem apply_prepared {base : Settings} (hb : base.Writable) (h : ¬ Refuses entries) :
    ∃ log, apply entries base = ((withInterval (prepared base entries)).1,
        log ++ (withInterval (prepared base entries)).2) ∧
      (∀ k, integerWarnings entries k (k.get base) ⊆ log) ∧
      ∀ e ∈ windowEntries entries, windowWarnings e ⊆ log := by
  have hintegers : applyIntegers entries IntegerKey.all base = _ :=
    applyIntegers_taken (by decide) (fun k _ hk => h (.integer hk)) (fun k _ => hb k)
  have htexts : applyTexts entries TextKey.all (setIntegers entries IntegerKey.all base) = _ :=
    applyTexts_taken (fun k _ hk => h (.text hk)) _
  obtain ⟨log, hwindows, hwarned⟩ := readWindows_taken (fun e he hr => h (.window he hr))
    (TextKey.all.foldl (setText entries) (setIntegers entries IntegerKey.all base))
  refine ⟨(IntegerKey.all.flatMap fun k => integerWarnings entries k (k.get base)) ++ log,
    ?_, ?_, ?_⟩
  · unfold apply
    rw [hintegers]
    dsimp only
    rw [htexts]
    dsimp only
    rw [hwindows]
    rfl
  · intro k w hw
    exact List.mem_append_left _ (List.mem_flatMap.2 ⟨k, k.mem_all, hw⟩)
  · intro e he w hw
    exact List.mem_append_right _ (hwarned e he hw)

theorem prepared_integers (base : Settings) (entries : List (Document × Document))
    (k : IntegerKey) : k.get (prepared base entries) = integerOr entries k (k.get base) := by
  have hwindows : ∀ (s : Settings) ws, k.get { s with windows := ws } = k.get s := by
    intro s ws
    cases k <;> rfl
  rw [prepared, hwindows, (setTexts_frame _ _).1, get_setIntegers (by decide), if_pos k.mem_all]

theorem prepared_texts (base : Settings) (entries : List (Document × Document)) (k : TextKey) :
    k.get (prepared base entries) = textOr entries k (k.get base) := by
  have hwindows : ∀ (s : Settings) ws, k.get { s with windows := ws } = k.get s := by
    intro s ws
    cases k <;> rfl
  rw [prepared, hwindows, get_setTexts (by decide), if_pos k.mem_all, (setIntegers_frame _ _).1]

theorem prepared_windows (base : Settings) (entries : List (Document × Document)) :
    (prepared base entries).windows =
      Keyed.insertAll ((windowEntries entries).filterMap window?) base.windows := by
  rw [prepared]
  dsimp only
  rw [(setTexts_frame _ _).2, (setIntegers_frame _ _).2]

theorem prepared_interval (base : Settings) (entries : List (Document × Document)) :
    (prepared base entries).cleanupInterval =
      integerOr entries .cleanupInterval base.cleanupInterval :=
  prepared_integers base entries .cleanupInterval

theorem apply_refused {base : Settings} (hb : base.Writable) (h : Refused base entries) :
    ∃ f log, apply entries base = (.error f, log) := by
  by_cases hr : Refuses entries
  · exact apply_refuses hr base
  · obtain ⟨hlow, hlong⟩ := h.resolve_left hr
    obtain ⟨log, happly, -⟩ := apply_prepared hb hr
    rw [← prepared_interval] at hlow hlong
    rw [happly, withInterval_refused hlow hlong]
    exact ⟨_, _, rfl⟩

theorem apply_taken {base : Settings} (hb : base.Writable) (h : ¬ Refused base entries) :
    ∃ s log, apply entries base = (.ok s, log) ∧ Loaded base entries s log := by
  obtain ⟨hr, hinterval⟩ := not_or.1 h
  obtain ⟨log, happly, hintegers, hwindows⟩ := apply_prepared hb hr
  rw [← prepared_interval] at hinterval
  obtain ⟨more, hlast⟩ := withInterval_taken (s := prepared base entries) (by
    intro hlow
    rw [← Bool.not_eq_false]
    exact fun hlong => hinterval ⟨hlow, hlong⟩)
  rw [hlast] at happly
  refine ⟨_, log ++ more, happly, ?_⟩
  exact {
    integers := by
      intro k hk
      rw [← prepared_integers]
      cases k with
      | cleanupInterval => exact absurd rfl hk
      | maxRunning | shutdownGrace | devPodGrace => rfl
    interval := by rw [← prepared_interval]
    texts := by
      intro k
      rw [← prepared_texts]
      cases k <;> rfl
    windows := prepared_windows base entries
    integerWarned := fun k => List.subset_append_of_subset_left _ (hintegers k)
    windowWarned := fun e he => List.subset_append_of_subset_left _ (hwindows e he) }

/-- What comes of settings `base` and a file with the given entries. -/
structure Resolved (base : Settings) (entries : List (Document × Document))
    (outcome : Except Fault Settings × List Log.Record) : Prop where
  fails_iff : (∃ f, outcome.1 = .error f) ↔ Refused base entries
  loaded : ∀ s, outcome.1 = .ok s → Loaded base entries s outcome.2

theorem Loaded.mono {base s : Settings} {log more : List Log.Record}
    (h : Loaded base entries s log) (hmore : log ⊆ more) : Loaded base entries s more :=
  ⟨h.integers, h.interval, h.texts, h.windows,
    fun k => List.Subset.trans (h.integerWarned k) hmore,
    fun e he => List.Subset.trans (h.windowWarned e he) hmore⟩

theorem load_eq (s : Settings) {path : String} {file : FileState} {d : Document}
    {warnings : List Log.Record} (hpath : path ≠ "")
    (hread : readFile path file = (.ok d, warnings)) :
    s.load (some path) file = ((apply (entriesOf path d).1 s).1,
      warnings ++ (entriesOf path d).2 ++ (apply (entriesOf path d).1 s).2) := by
  unfold load
  split
  next heq => cases heq
  next heq => exact absurd (Option.some.inj heq) hpath
  next heq =>
    obtain rfl := Option.some.inj heq
    rw [hread]

/-- The settings `s` come out of a file that holds the document `d`. -/
structure Loads (env : Environment) (path : String) (file : FileState) (d : Document)
    (s : Settings) : Prop where
  named : path ≠ ""
  read : (readFile path file).1 = .ok d
  loaded : ((ofEnvironment env).1.load (some path) file).1 = .ok s

theorem Loads.taken {env : Environment} {path : String} {file : FileState} {d : Document}
    {s : Settings} (h : Loads env path file d s) :
    ¬ Refused (ofEnvironment env).1 (entriesOf path d).1 ∧
      Loaded (ofEnvironment env).1 (entriesOf path d).1 s
        ((ofEnvironment env).1.load (some path) file).2 := by
  have hb := ofEnvironment_writable env
  have hload := h.loaded
  rw [load_eq _ h.named (Prod.ext h.read rfl)] at hload ⊢
  by_cases href : Refused (ofEnvironment env).1 (entriesOf path d).1
  · obtain ⟨f, log, happly⟩ := apply_refused hb href
    rw [happly] at hload
    cases hload
  · obtain ⟨s', log, happly, hloaded⟩ := apply_taken hb href
    rw [happly] at hload ⊢
    obtain rfl := Except.ok.inj hload
    exact ⟨href, hloaded.mono (List.subset_append_right _ _)⟩

/-- A file whose text is a document is loaded on top of the environment, unless one of its values is
refused. -/
theorem load_resolved (env : Environment) {path : String} {file : FileState} {d : Document}
    {warnings : List Log.Record} (hpath : path ≠ "")
    (hread : readFile path file = (.ok d, warnings)) :
    Resolved (ofEnvironment env).1 (entriesOf path d).1
      ((ofEnvironment env).1.load (some path) file) := by
  have hb := ofEnvironment_writable env
  rw [load_eq _ hpath hread]
  by_cases h : Refused (ofEnvironment env).1 (entriesOf path d).1
  · obtain ⟨f, log, happly⟩ := apply_refused hb h
    rw [happly]
    exact ⟨⟨fun _ => h, fun _ => ⟨f, rfl⟩⟩, fun s hs => by cases hs⟩
  · obtain ⟨s, log, happly, hloaded⟩ := apply_taken hb h
    rw [happly]
    refine ⟨⟨?_, fun hr => absurd hr h⟩, ?_⟩
    · rintro ⟨f, hf⟩
      cases hf
    · rintro _ ⟨⟩
      exact hloaded.mono (List.subset_append_right _ _)

example : apply [(.text "cleanup_interval_minutes", .float Binary64.nan),
      (.text "namespace", .text "flows")] {} =
    (.ok { namespaceName := "flows" },
      [warn "Invalid value for cleanup_interval_minutes: nan, using default 10"]) := by
  decide +kernel

/-! ## A file that is not loaded -/

open Document.Yaml

def unboundedText : String :=
  "cleanup_interval_minutes: .inf\nnamespace: flows\n"

def unboundedTokens : List Token :=
  [.blockMappingStart,
    .key, .scalar "cleanup_interval_minutes" true, .value, .scalar ".inf" true,
    .key, .scalar "namespace" true, .value, .scalar "flows" true, .blockEnd]

def unboundedEntries : List (Document × Document) :=
  [(.text "cleanup_interval_minutes", .float Binary64.infinity), (.text "namespace", .text "flows")]

theorem unbounded_tokens : tokens unboundedText.toList = .ok unboundedTokens := by
  cbv

theorem unbounded_read : Document.Yaml.read? unboundedText = .ok (.map unboundedEntries) := by
  have hlines : newlinesOnly unboundedText.toList = unboundedText.toList := by cbv
  have hallowed : unboundedText.toList.all isAllowed = true := by decide +kernel
  have hinterval : Tag.ofPlain "cleanup_interval_minutes" = .text := by decide +kernel
  have hnumber : Tag.ofPlain ".inf" = .float := by decide +kernel
  have hspace : Tag.ofPlain "namespace" = .text := by decide +kernel
  have hflows : Tag.ofPlain "flows" = .text := by decide +kernel
  have hnode : Node.ofTokens? unboundedTokens = .ok (.mapping .map
      [(.scalar (Tag.ofPlain "cleanup_interval_minutes") "cleanup_interval_minutes",
          .scalar (Tag.ofPlain ".inf") ".inf"),
        (.scalar (Tag.ofPlain "namespace") "namespace",
          .scalar (Tag.ofPlain "flows") "flows")]) := rfl
  rw [hinterval, hnumber, hspace, hflows] at hnode
  have hbuilt : (Node.mapping .map
      [(.scalar .text "cleanup_interval_minutes", .scalar .float ".inf"),
        (.scalar .text "namespace", .scalar .text "flows")]).merged.build 0 =
      ⟨.map unboundedEntries, none⟩ := rfl
  unfold Document.Yaml.read?
  dsimp only
  rw [hlines, hallowed, unbounded_tokens]
  dsimp only [bind, Except.bind, pure, Except.pure]
  rw [hnode]
  dsimp only
  rw [hbuilt]
  rfl

theorem unbounded_file :
    readFile "settings.yaml" (.holds unboundedText.toUTF8) = (.ok (.map unboundedEntries), []) := by
  have hutf8 : String.fromUTF8? unboundedText.toUTF8 = some unboundedText := by decide +kernel
  unfold readFile
  dsimp only
  rw [hutf8]
  dsimp only
  rw [unbounded_read]

/-- The infinite interval is refused, and the namespace is lost with it. -/
theorem unbounded_resolved :
    Refused (ofEnvironment fun _ => none).1 unboundedEntries ∧
      Resolved (ofEnvironment fun _ => none).1 unboundedEntries
        ((ofEnvironment fun _ => none).1.load (some "settings.yaml")
          (.holds unboundedText.toUTF8)) := by
  have hinfinite : IsInfinite (.float Binary64.infinity) := ⟨_, false, rfl, by decide⟩
  refine ⟨.inl (.integer (k := .cleanupInterval) ⟨_, rfl, .inl hinfinite⟩), ?_⟩
  exact load_resolved _ (by decide) unbounded_file

theorem unbounded_not_loaded :
    ((ofEnvironment fun _ => none).1.load (some "settings.yaml") (.holds unboundedText.toUTF8)).1 =
      .error .infinite := by
  rw [load_eq _ (by decide) unbounded_file]
  decide +kernel

end Settings

end FlowWarden
