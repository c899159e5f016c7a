import FlowWarden.Execution.Staleness
import FlowWarden.Proofs.Keyed
/-!
# The table that an operator gets

The standard table has seven states in a fixed order, whatever an operator sets. `build_tabled` says
which window each of them gets, which names are warned about, and when there is no table: only the
window that was set last for a state counts, so one that is no duration does no harm if it is set
again, or if it is set for a state that the table does not have.
-/

namespace FlowWarden

theorem Status.mem_all (status : Status) : status ∈ all := by
  cases status <;> decide

theorem Status.name_injective : Function.Injective name := by
  intro s t
  cases s <;> cases t <;> decide

theorem Status.ofName?_eq_some_iff {s : String} {status : Status} :
    ofName? s = some status ↔ s = status.name := by
  constructor
  · intro h
    have hname := List.find?_some h
    exact (beq_iff_eq.1 hname).symm
  · rintro rfl
    cases hfound : ofName? status.name with
    | none =>
      rw [ofName?, List.find?_eq_none] at hfound
      exact absurd (beq_self_eq_true _) (hfound status status.mem_all)
    | some found =>
      have hname := List.find?_some hfound
      rw [name_injective (beq_iff_eq.1 hname)]

namespace StalenessPolicy

/-! ## What is set -/

/-- What is set last for a state, under its name in any case. -/
def lastSet? {α : Type} (overrides : List (String × α)) (status : Status) : Option α :=
  (overrides.reverse.find? fun o => Text.upper o.1 = status.name).map Prod.snd

/-- The warning about a name, if it is not the name of a state in the table. -/
def complaint? (states : List Status) (name : String) : Option Log.Record :=
  match Status.ofName? (Text.upper name) with
  | none => some (ignored "unknown" name)
  | some status => if status ∈ states then none else some (ignored "unmonitored" name)

theorem lastSet?_cons {α : Type} (o : String × α) (os : List (String × α)) (status : Status) :
    lastSet? (o :: os) status =
      (lastSet? os status).or (if Text.upper o.1 = status.name then some o.2 else none) := by
  rw [lastSet?, lastSet?, List.reverse_cons, List.find?_append]
  cases os.reverse.find? fun o => Text.upper o.1 = status.name with
  | some found => rfl
  | none => by_cases h : Text.upper o.1 = status.name <;> simp [h]

theorem lastSet?_map {α β : Type} (f : α → β) (os : List (String × α)) (status : Status) :
    lastSet? (os.map fun o => (o.1, f o.2)) status = (lastSet? os status).map f := by
  induction os with
  | nil => rfl
  | cons o os ih =>
    rw [List.map_cons, lastSet?_cons, lastSet?_cons, ih]
    by_cases h : Text.upper o.1 = status.name <;> cases lastSet? os status <;> simp [h]

/-- Names that are warned about set nothing in the table. -/
theorem lastSet?_filter {α : Type} {states : List Status} {status : Status} (h : status ∈ states)
    (os : List (String × α)) :
    lastSet? (os.filter fun o => (complaint? states o.1).isNone) status = lastSet? os status := by
  induction os with
  | nil => rfl
  | cons o os ih =>
    rw [lastSet?_cons, ← ih]
    cases hc : complaint? states o.1 with
    | none => rw [List.filter_cons_of_pos (by rw [hc]; rfl), lastSet?_cons]
    | some warning =>
      have hother : Text.upper o.1 ≠ status.name := by
        intro hname
        rw [complaint?, Status.ofName?_eq_some_iff.2 hname] at hc
        simp [h] at hc
      rw [List.filter_cons_of_neg (by simp [hc]), if_neg hother, Option.or_none]

/-- The windows with those of them replaced that are set. -/
def replaced (windows : List (Status × Window)) (overrides : List (String × Number)) :
    List (Status × Window) :=
  windows.map fun w => (w.1, { w.2 with minutes := (lastSet? overrides w.1).getD w.2.minutes })

theorem keys_replaced (windows : List (Status × Window)) (overrides : List (String × Number)) :
    Keyed.keys (replaced windows overrides) = Keyed.keys windows := by
  simp [Keyed.keys, replaced]

theorem replaced_of_ne {windows : List (Status × Window)} {name : String}
    (h : ∀ status ∈ Keyed.keys windows, Text.upper name ≠ status.name) (minutes : Number) :
    replaced windows [(name, minutes)] = windows := by
  refine (List.map_congr_left fun w hw => ?_).trans (List.map_id windows)
  have hne : Text.upper name ≠ w.1.name := h _ (List.mem_map_of_mem hw)
  rw [lastSet?_cons, if_neg hne]
  rfl

theorem override_eq {windows : List (Status × Window)} (hn : (Keyed.keys windows).Nodup)
    (name : String) (minutes : Number) :
    override windows name minutes =
      (replaced windows [(name, minutes)], (complaint? (Keyed.keys windows) name).toList) := by
  unfold override complaint?
  cases hstatus : Status.ofName? (Text.upper name) with
  | none =>
    have hunknown : ∀ status ∈ Keyed.keys windows, Text.upper name ≠ status.name := by
      intro status _ hname
      rw [Status.ofName?_eq_some_iff.2 hname] at hstatus
      cases hstatus
    rw [replaced_of_ne hunknown]
    rfl
  | some status =>
    have hname := Status.ofName?_eq_some_iff.1 hstatus
    dsimp only
    by_cases hmem : status ∈ Keyed.keys windows
    · obtain ⟨w, hw, rfl⟩ := List.mem_map.1 hmem
      rw [Keyed.find?_of_mem hn hw, if_pos hmem]
      refine Prod.ext ?_ rfl
      refine (Keyed.insert_eq_map hn hmem _).trans (List.map_congr_left fun v hv => ?_)
      rw [lastSet?_cons, hname]
      by_cases hkey : v.1 = w.1
      · have hsame : v.2 = w.2 := by
          have hfind := Keyed.find?_of_mem hn hv
          rw [hkey, Keyed.find?_of_mem hn hw] at hfind
          exact (Option.some.inj hfind).symm
        rw [if_pos hkey, if_pos (by rw [hkey]), hsame, hkey]
        rfl
      · rw [if_neg hkey, if_neg fun h => hkey (Status.name_injective h.symm)]
        rfl
    · have hunmonitored : ∀ s ∈ Keyed.keys windows, Text.upper name ≠ s.name := by
        rintro s hs hs'
        rw [hname] at hs'
        exact hmem (Status.name_injective hs' ▸ hs)
      rw [Keyed.find?_of_notMem hmem, if_neg hmem, replaced_of_ne hunmonitored]
      rfl

theorem overrideAll_eq {windows : List (Status × Window)} (hn : (Keyed.keys windows).Nodup)
    (overrides : List (String × Number)) :
    overrideAll windows overrides =
      (replaced windows overrides,
        overrides.filterMap fun o => complaint? (Keyed.keys windows) o.1) := by
  -- Each setting leaves other windows to the next one, but for the same states.
  induction overrides generalizing windows with
  | nil =>
    refine Prod.ext ?_ rfl
    exact (List.map_id windows).symm
  | cons o os ih =>
    have hkeys := keys_replaced windows [o]
    rw [overrideAll, override_eq hn]
    dsimp only
    rw [ih (by rw [hkeys]; exact hn), hkeys]
    refine Prod.ext ?_ ?_
    · simp only [replaced, List.map_map]
      refine List.map_congr_left fun w _ => ?_
      simp only [Function.comp_apply, lastSet?_cons]
      cases lastSet? os w.1 <;> rfl
    · rw [List.filterMap_cons]
      cases complaint? (Keyed.keys windows) o.1 <;> rfl

/-! ## The rows -/

/-- A state of the table, the moment that its window counts from, and the window. -/
structure Row where
  status : Status
  field : TimestampField
  minutes : Int

/-- The table for flows that may run `maxRunning` minutes, where nothing is set. -/
def standardRows (maxRunning : Int) : List Row :=
  let running := if 0 < maxRunning then maxRunning + 60 else -1
  [⟨.dispatching, .submit, 10⟩,
    ⟨.preparing, .submit, 15⟩,
    ⟨.running, .start, running⟩,
    ⟨.paused, .start, running⟩,
    ⟨.killing, .update, 15⟩,
    ⟨.executionStopped, .update, 15⟩,
    ⟨.failedFinishing, .start, running⟩]

/-- The table with what is set last for each of its states. -/
def rows (maxRunning : Int) (overrides : List (String × Int)) : List Row :=
  (standardRows maxRunning).map fun row =>
    { row with minutes := (lastSet? overrides row.status).getD row.minutes }

/-- The states of the table. -/
def tableStates : List Status :=
  [.dispatching, .preparing, .running, .paused, .killing, .executionStopped, .failedFinishing]

/-- So many minutes are a duration. -/
def InRange (minutes : Int) : Prop :=
  -999999999 * 1440 ≤ minutes ∧ minutes < 1000000000 * 1440

def Row.window (row : Row) : Status × Window :=
  (row.status, ⟨.int row.minutes, row.field⟩)

/-- The rule of a row, with its window in microseconds. -/
def Row.entry (row : Row) : Status × TimestampField × Int :=
  (row.status, row.field, row.minutes * Duration.minute)

theorem standardWindows_int (maxRunning : Int) :
    standardWindows (.int maxRunning) = (standardRows maxRunning).map Row.window := by
  have hrunning : runningMinutes (.int maxRunning) =
      .int (if 0 < maxRunning then maxRunning + 60 else -1) := by
    by_cases h : 0 < maxRunning <;>
      simp [runningMinutes, Number.isPositive, Number.shift, runningBuffer, h]
  rw [standardWindows, hrunning]
  rfl

theorem status_standardRows (maxRunning : Int) :
    (standardRows maxRunning).map Row.status = tableStates := rfl

theorem status_rows (maxRunning : Int) (overrides : List (String × Int)) :
    (rows maxRunning overrides).map Row.status = tableStates := by
  rw [rows, List.map_map]
  exact status_standardRows maxRunning

theorem replaced_window (rs : List Row) (overrides : List (String × Int)) :
    replaced (rs.map Row.window) (overrides.map fun o => (o.1, .int o.2)) =
      (rs.map fun row => { row with
        minutes := (lastSet? overrides row.status).getD row.minutes }).map Row.window := by
  rw [replaced, List.map_map, List.map_map]
  refine List.map_congr_left fun row _ => ?_
  simp only [Function.comp_apply, Row.window, lastSet?_map]
  cases lastSet? overrides row.status <;> rfl

/-- Everything that `build` does with integers, in terms of the rows. -/
theorem build_eq (maxRunning : Int) (overrides : List (String × Int)) :
    build (.int maxRunning) (overrides.map fun o => (o.1, .int o.2)) =
      ((rulesOf ((rows maxRunning overrides).map Row.window)).map ofRules,
        overrides.filterMap fun o => complaint? tableStates o.1) := by
  have hkeys : Keyed.keys ((standardRows maxRunning).map Row.window) = tableStates := by
    rw [Keyed.keys, List.map_map]
    exact status_standardRows maxRunning
  have hn : (Keyed.keys ((standardRows maxRunning).map Row.window)).Nodup := by
    rw [hkeys]
    decide
  rw [build, standardWindows_int, overrideAll_eq hn, hkeys, replaced_window, List.filterMap_map]
  rfl

/-! ## The rules -/

/-- What a rule of a policy says, in microseconds. -/
def entry (r : Status × StalenessRule) : Status × TimestampField × Int :=
  (r.1, r.2.field, r.2.maxAge.micros)

theorem minute_eq : (Duration.minute : Int) = 60000000 := rfl

theorem rule_of_inRange {row : Row} (h : InRange row.minutes) :
    ∃ rule, row.window.2.rule = .ok rule ∧ entry (row.status, rule) = row.entry := by
  have hmicros : -999999999 * 86400000000 ≤ row.minutes * (Duration.minute : Int) ∧
      row.minutes * (Duration.minute : Int) < 1000000000 * 86400000000 := by
    obtain ⟨hlower, hupper⟩ := h
    rw [minute_eq]
    omega
  refine ⟨⟨⟨row.minutes * Duration.minute, hmicros.1, hmicros.2⟩, row.field⟩, ?_, rfl⟩
  rw [Window.rule, Row.window, Duration.ofUnits, Duration.ofMicros, dif_pos hmicros]
  rfl

theorem rule_of_not_inRange {row : Row} (h : ¬ InRange row.minutes) :
    row.window.2.rule = .error .outOfRange := by
  have hmicros : ¬ (-999999999 * 86400000000 ≤ row.minutes * (Duration.minute : Int) ∧
      row.minutes * (Duration.minute : Int) < 1000000000 * 86400000000) := by
    rintro ⟨hlower, hupper⟩
    rw [minute_eq] at hlower hupper
    exact h ⟨by omega, by omega⟩
  rw [Window.rule, Row.window, Duration.ofUnits, Duration.ofMicros, dif_neg hmicros]
  rfl

theorem rulesOf_made {rs : List Row} (h : ∀ row ∈ rs, InRange row.minutes) :
    ∃ rules, rulesOf (rs.map Row.window) = .ok rules ∧ rules.map entry = rs.map Row.entry := by
  induction rs with
  | nil => exact ⟨[], rfl, rfl⟩
  | cons row rs ih =>
    obtain ⟨rule, hrule, hentry⟩ := rule_of_inRange (h row List.mem_cons_self)
    obtain ⟨rules, hrules, hentries⟩ := ih fun r hr => h r (List.mem_cons_of_mem _ hr)
    refine ⟨(row.status, rule) :: rules, ?_, ?_⟩
    · rw [List.map_cons, rulesOf, hrules]
      exact congrArg (fun x => x >>= _) hrule
    · rw [List.map_cons, List.map_cons, hentry, hentries]

theorem rulesOf_failed {rs : List Row} (h : ∃ row ∈ rs, ¬ InRange row.minutes) :
    rulesOf (rs.map Row.window) = .error .outOfRange := by
  induction rs with
  | nil => simp at h
  | cons row rs ih =>
    rw [List.map_cons, rulesOf]
    by_cases hrow : InRange row.minutes
    · obtain ⟨rule, hrule, -⟩ := rule_of_inRange hrow
      have hrest : ∃ r ∈ rs, ¬ InRange r.minutes := by
        obtain ⟨r, hr, hnot⟩ := h
        exact ⟨r, (List.mem_cons.1 hr).resolve_left fun e => hnot (e ▸ hrow), hnot⟩
      rw [ih hrest]
      exact congrArg (fun x => x >>= _) hrule
    · exact congrArg (fun x => x >>= _) (rule_of_not_inRange hrow)

theorem rules_ofRules {rules : List (Status × StalenessRule)} {rs : List Row}
    (hstates : rs.map Row.status = tableStates) (h : rules.map entry = rs.map Row.entry) :
    (ofRules rules).rules = rules := by
  have hkeys : Keyed.keys rules = tableStates := by
    have hfirst := congrArg (List.map Prod.fst) h
    rw [List.map_map, List.map_map] at hfirst
    exact hfirst.trans hstates
  refine Keyed.ofPairs_of_nodup ?_
  rw [hkeys]
  decide

/-- The window of an entry is not negative. -/
def isKept (e : Status × TimestampField × Int) : Bool :=
  decide (0 ≤ e.2.2)

theorem isKept_entry (r : Status × StalenessRule) : isKept (entry r) = !r.2.isExempt := by
  have h : 0 ≤ r.2.maxAge.micros ↔ ¬ r.2.maxAge.micros < 0 := Int.not_lt.symm
  exact (decide_eq_decide.2 h).trans decide_not

theorem isKept_row (row : Row) : isKept row.entry = decide (0 ≤ row.minutes) := by
  have h : 0 ≤ row.minutes * (Duration.minute : Int) ↔ 0 ≤ row.minutes := by
    rw [minute_eq]
    omega
  exact decide_eq_decide.2 h

theorem monitored_of_entries {p : StalenessPolicy} {rs : List Row}
    (h : p.rules.map entry = rs.map Row.entry) :
    p.monitored = (rs.filter fun row => 0 ≤ row.minutes).map Row.status := by
  have hkept := congrArg (fun es => (es.filter isKept).map Prod.fst) h
  simp only [List.filter_map, List.map_map] at hkept
  have hpolicy : p.rules.filter (isKept ∘ entry) = p.monitoredRules :=
    List.filter_congr fun r _ => isKept_entry r
  have hrows : rs.filter (isKept ∘ Row.entry) = rs.filter fun row => 0 ≤ row.minutes :=
    List.filter_congr fun row _ => isKept_row row
  rw [hpolicy, hrows] at hkept
  exact hkept

/-- The rules of the rows are made into a policy, unless a window is no duration. -/
theorem made_cases {rs : List Row} (hstates : rs.map Row.status = tableStates) :
    ((∀ row ∈ rs, InRange row.minutes) ∧ ∃ p, (rulesOf (rs.map Row.window)).map ofRules = .ok p ∧
        p.rules.map entry = rs.map Row.entry) ∨
      ((∃ row ∈ rs, ¬ InRange row.minutes) ∧
        (rulesOf (rs.map Row.window)).map ofRules = .error .outOfRange) := by
  by_cases hall : ∀ row ∈ rs, InRange row.minutes
  · obtain ⟨rules, hrules, hentries⟩ := rulesOf_made hall
    refine .inl ⟨hall, ofRules rules, by rw [hrules]; rfl, ?_⟩
    rw [rules_ofRules hstates hentries, hentries]
  · have hsome : ∃ row ∈ rs, ¬ InRange row.minutes := by simpa using hall
    exact .inr ⟨hsome, by rw [rulesOf_failed hsome]; rfl⟩

/-! ## The table -/

/-- The windows that an operator sets for states of the table. -/
def heeded (overrides : List (String × Int)) : List (String × Int) :=
  overrides.filter fun o => (complaint? tableStates o.1).isNone

theorem rows_heeded (maxRunning : Int) (overrides : List (String × Int)) :
    rows maxRunning (heeded overrides) = rows maxRunning overrides := by
  refine List.map_congr_left fun row hrow => ?_
  have hmem : row.status ∈ tableStates := by
    rw [← status_standardRows maxRunning]
    exact List.mem_map_of_mem hrow
  rw [heeded, lastSet?_filter hmem]

/-- What becomes of the standard table and an operator's windows. -/
structure Tabled (maxRunning : Int) (overrides : List (String × Int))
    (result : Except Duration.Fault StalenessPolicy × List Log.Record) : Prop where
  made_iff : (∃ p, result.1 = .ok p) ↔ ∀ row ∈ rows maxRunning overrides, InRange row.minutes
  failed_iff : result.1 = .error .outOfRange ↔
    ∃ row ∈ rows maxRunning overrides, ¬ InRange row.minutes
  states : ∀ p, result.1 = .ok p → p.rules.map Prod.fst = tableStates
  rules : ∀ p, result.1 = .ok p → p.rules.map entry = (rows maxRunning overrides).map Row.entry
  monitored : ∀ p, result.1 = .ok p →
    p.monitored = ((rows maxRunning overrides).filter fun row => 0 ≤ row.minutes).map Row.status
  warnings : result.2 = overrides.filterMap fun o => complaint? tableStates o.1
  /-- Without the names that are warned about the table is the same. -/
  unchanged : (build (.int maxRunning) ((heeded overrides).map fun o => (o.1, .int o.2))).1 =
    result.1

/-- The standard table is made unless one of its final windows is no duration. It has the same
states in the same order, each with the window that was set last for it. -/
theorem build_tabled (maxRunning : Int) (overrides : List (String × Int)) :
    Tabled maxRunning overrides
      (build (.int maxRunning) (overrides.map fun o => (o.1, .int o.2))) := by
  have hunchanged := build_eq maxRunning (heeded overrides)
  rw [rows_heeded] at hunchanged
  have hstates := status_rows maxRunning overrides
  rw [build_eq]
  rcases made_cases hstates with ⟨hall, p, hp, hentries⟩ | ⟨hsome, hfault⟩
  · have hmade (q : StalenessPolicy) (hq : (rulesOf ((rows maxRunning overrides).map
        Row.window)).map ofRules = .ok q) :
        q.rules.map entry = (rows maxRunning overrides).map Row.entry := by
      obtain rfl := Except.ok.inj (hp.symm.trans hq)
      exact hentries
    exact {
      made_iff := iff_of_true ⟨p, hp⟩ hall
      failed_iff := iff_of_false (by simp [hp]) (by simpa using hall)
      states := by
        intro q hq
        have hfirst := congrArg (List.map Prod.fst) (hmade q hq)
        rw [List.map_map, List.map_map] at hfirst
        exact hfirst.trans hstates
      rules := hmade
      monitored := fun q hq => monitored_of_entries (hmade q hq)
      warnings := rfl
      unchanged := by rw [hunchanged] }
  · have hnone (q : StalenessPolicy) : ¬ (rulesOf ((rows maxRunning overrides).map
        Row.window)).map ofRules = .ok q := by simp [hfault]
    exact {
      made_iff := iff_of_false (by simp [hfault]) (by simpa using hsome)
      failed_iff := iff_of_true hfault hsome
      states := fun q hq => absurd hq (hnone q)
      rules := fun q hq => absurd hq (hnone q)
      monitored := fun q hq => absurd hq (hnone q)
      warnings := rfl
      unchanged := by rw [hunchanged] }

end StalenessPolicy

end FlowWarden
