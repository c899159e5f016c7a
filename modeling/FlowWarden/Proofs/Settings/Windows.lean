import FlowWarden.Proofs.Execution.Table
import FlowWarden.Proofs.Settings.Interval
import FlowWarden.Proofs.Text.Upper
/-!
# From a file to the table of a reaper

The windows of a settings file pass through two tables before a reaper goes by them: one from names
to minutes, and the standard table of states. `effective_policy` says what is left of them. A state
has the minutes of the last entry that writes its name in any case and gives an integer; all
other entries might as well be missing. The entries are those of the map that was read, where a
key that is written twice has one entry, at its first place.
-/

namespace FlowWarden.Settings

open Reaper (Setup)
open StalenessPolicy

/-! ## Minutes under a name -/

/-- The minutes that are set last under a name in capital letters, by an entry that gives an
integer. -/
def minutesSet? (es : List (Document × Document)) (name : String) : Option Int :=
  es.reverse.findSome? fun e =>
    if Text.upper e.1.display = name then (asInteger e.2).toOption else none

theorem minutesSet?_append (es : List (Document × Document)) (e : Document × Document)
    (name : String) : minutesSet? (es ++ [e]) name =
      ((if Text.upper e.1.display = name then (asInteger e.2).toOption else none).or
        (minutesSet? es name)) := by
  rw [minutesSet?, List.reverse_append]
  cases h : (if Text.upper e.1.display = name then (asInteger e.2).toOption else none) <;>
    simp [h, minutesSet?]

/-- Of the entries that set minutes under one name, the last one is found. -/
theorem find?_windows (es : List (Document × Document)) (name : String) :
    Keyed.find? name (Keyed.insertAll (es.filterMap window?) []) = minutesSet? es name := by
  induction es using List.reverseRecOn with
  | nil => rfl
  | append_singleton es e ih =>
    rw [List.filterMap_append, Keyed.insertAll_append, minutesSet?_append, ← ih]
    cases hn : asInteger e.2 with
    | error f =>
      have hnone : [e].filterMap window? = [] := by simp [window?, hn, Except.toOption]
      rw [hnone]
      simp [Keyed.insertAll, Except.toOption]
    | ok n =>
      have hsome : [e].filterMap window? = [(Text.upper e.1.display, n)] := by
        simp [window?, hn, Except.toOption]
      have hinsert (m : List (String × Int)) :
          Keyed.insertAll [(Text.upper e.1.display, n)] m =
            Keyed.insert (Text.upper e.1.display) n m := rfl
      rw [hsome, hinsert, Keyed.find?_insert]
      by_cases hname : Text.upper e.1.display = name <;> simp [hname, Except.toOption]

/-! ## Names that are in capital letters already -/

theorem upper_keys_windows (es : List (Document × Document)) :
    ∀ w ∈ Keyed.insertAll (es.filterMap window?) [], Text.upper w.1 = w.1 := by
  intro w hw
  have hkey : w.1 ∈ Keyed.keys (es.filterMap window?) := by
    have hmem := (Keyed.mem_keys_insertAll _ _).1 (List.mem_map_of_mem hw)
    exact hmem.resolve_left List.not_mem_nil
  obtain ⟨v, hv, hname⟩ := List.mem_map.1 hkey
  obtain ⟨e, -, he⟩ := List.mem_filterMap.1 hv
  obtain ⟨n, -, rfl⟩ := Option.map_eq_some_iff.1 he
  rw [← hname]
  exact Text.upper_upper _

/-- Distinct names that are in capital letters are looked up as they stand. -/
theorem lastSet?_of_upper {ws : List (String × Int)} (hn : (Keyed.keys ws).Nodup)
    (hupper : ∀ w ∈ ws, Text.upper w.1 = w.1) (status : Status) :
    lastSet? ws status = Keyed.find? status.name ws := by
  induction ws with
  | nil => rfl
  | cons w ws ih =>
    have hkeys : Keyed.keys (w :: ws) = w.1 :: Keyed.keys ws := rfl
    rw [hkeys] at hn
    obtain ⟨hw, hn⟩ := List.nodup_cons.1 hn
    rw [lastSet?_cons, Keyed.find?_cons, ih hn fun v hv => hupper v (List.mem_cons_of_mem _ hv),
      hupper w List.mem_cons_self]
    by_cases hname : w.1 = status.name
    · rw [if_pos hname, if_pos hname, Keyed.find?_of_notMem (hname ▸ hw), Option.none_or]
    · rw [if_neg hname, if_neg hname, Option.or_none]

theorem lastSet?_windows (es : List (Document × Document)) (status : Status) :
    lastSet? (Keyed.insertAll (es.filterMap window?) []) status =
      minutesSet? es status.name := by
  have hn : (Keyed.keys (Keyed.insertAll (es.filterMap window?) [])).Nodup :=
    Keyed.nodup_keys_foldl _ [] List.nodup_nil
  rw [lastSet?_of_upper hn (upper_keys_windows es), find?_windows]

/-! ## Entries that count -/

/-- An entry that gives an integer, under the name of a state that the table has. -/
def isHeeded (e : Document × Document) : Bool :=
  (asInteger e.2).toOption.isSome &&
    tableStates.any fun status => Text.upper e.1.display = status.name

theorem minutesSet?_filter {status : Status} (h : status ∈ tableStates)
    (es : List (Document × Document)) :
    minutesSet? (es.filter isHeeded) status.name = minutesSet? es status.name := by
  induction es using List.reverseRecOn with
  | nil => rfl
  | append_singleton es e ih =>
    rw [List.filter_append, minutesSet?_append, ← ih]
    cases he : isHeeded e with
    | true =>
      rw [List.filter_cons_of_pos he, List.filter_nil, minutesSet?_append]
    | false =>
      have hnone : (if Text.upper e.1.display = status.name then (asInteger e.2).toOption
          else none) = none := by
        by_cases hname : Text.upper e.1.display = status.name
        · have hstate : (tableStates.any fun status =>
              Text.upper e.1.display = status.name) = true :=
            List.any_eq_true.2 ⟨status, h, decide_eq_true hname⟩
          rw [isHeeded, hstate, Bool.and_true, Option.isSome_eq_false_iff,
            Option.isNone_iff_eq_none] at he
          rw [if_pos hname, he]
        · exact if_neg hname
      rw [List.filter_cons_of_neg (by simp [he]), List.filter_nil, List.append_nil, hnone,
        Option.none_or]

/-! ## The effective table -/

/-- The table for flows that may run `maxRunning` minutes, with the windows that entries set. -/
def rowsOf (maxRunning : Int) (es : List (Document × Document)) : List Row :=
  (standardRows maxRunning).map fun row =>
    { row with minutes := (minutesSet? es row.status.name).getD row.minutes }

theorem rowsOf_filter (maxRunning : Int) (es : List (Document × Document)) :
    rowsOf maxRunning (es.filter isHeeded) = rowsOf maxRunning es := by
  refine List.map_congr_left fun row hrow => ?_
  have hmem : row.status ∈ tableStates := by
    rw [← status_standardRows maxRunning]
    exact List.mem_map_of_mem hrow
  rw [minutesSet?_filter hmem]

theorem rows_windows (maxRunning : Int) (es : List (Document × Document)) :
    rows maxRunning (Keyed.insertAll (es.filterMap window?) []) = rowsOf maxRunning es :=
  List.map_congr_left fun row _ => by rw [lastSet?_windows]

/-- The minutes that a flow may run: the file's, or else the environment's, or else no limit. -/
def limit (env : Environment) (entries : List (Document × Document)) : Int :=
  integerOr entries .maxRunning
    ((env.given? IntegerKey.maxRunning.variableName).getD (-1))

/-- The table that a file gives on top of an environment. -/
def fileRows (env : Environment) (entries : List (Document × Document)) : List Row :=
  rowsOf (limit env entries) (windowEntries entries)

section

variable {env : Environment} {path : String} {file : FileState} {d : Document} {s : Settings}

theorem Loads.policy (h : Loads env path file d s) : (Setup.ofSettings s).policy.1 =
    (rulesOf ((fileRows env (entriesOf path d).1).map Row.window)).map ofRules := by
  obtain ⟨-, hloaded⟩ := h.taken
  have hlimit : s.maxRunning = limit env (entriesOf path d).1 := by
    have hfile := hloaded.integers .maxRunning (by decide)
    rw [get_ofEnvironment, env.integer_eq] at hfile
    exact hfile
  have hwindows := hloaded.windows
  rw [windows_ofEnvironment] at hwindows
  have hpolicy : (Setup.ofSettings s).policy =
      build (.int s.maxRunning) (s.windows.map fun w => (w.1, .int w.2)) := rfl
  rw [hpolicy, build_eq, hwindows, rows_windows, hlimit, fileRows]

theorem Loads.policy_congr {path' : String} {file' : FileState} {d' : Document} {s' : Settings}
    (h' : Loads env path' file' d' s') (h : Loads env path file d s)
    (hlimit : limit env (entriesOf path' d').1 = limit env (entriesOf path d).1)
    (hheeded : (windowEntries (entriesOf path' d').1).filter isHeeded =
      (windowEntries (entriesOf path d).1).filter isHeeded) :
    (Setup.ofSettings s').policy.1 = (Setup.ofSettings s).policy.1 := by
  rw [h'.policy, h.policy, fileRows, fileRows, hlimit, ← rowsOf_filter, hheeded, rowsOf_filter]

theorem begin_policy {setup : Setup} {clock : Reaper.Clock} {w : Reaper.World}
    (h : (setup.begin clock).1 = .ok w) : setup.policy.1 = .ok w.policy := by
  obtain ⟨policy, devPodGrace, hpolicy, -, rfl⟩ := Setup.begin_eq_ok.1 h
  exact hpolicy

/-- What the rows of a table are made into. -/
theorem made_of_rows {rs : List Row} (hstates : rs.map Row.status = tableStates)
    {result : Except Duration.Fault StalenessPolicy}
    (hresult : result = (rulesOf (rs.map Row.window)).map ofRules) :
    ((∃ p, result = .ok p) ↔ ∀ row ∈ rs, InRange row.minutes) ∧
      ∀ p, result = .ok p → p.rules.map entry = rs.map Row.entry := by
  rcases made_cases hstates with ⟨hall, p, hp, hentries⟩ | ⟨hsome, hfault⟩
  · rw [← hresult] at hp
    refine ⟨iff_of_true ⟨p, hp⟩ hall, fun q hq => ?_⟩
    obtain rfl := Except.ok.inj (hp.symm.trans hq)
    exact hentries
  · rw [← hresult] at hfault
    have hnone (q : StalenessPolicy) : result ≠ .ok q := by simp [hfault]
    exact ⟨iff_of_false (fun ⟨q, hq⟩ => hnone q hq) (by simpa using hsome),
      fun q hq => absurd hq (hnone q)⟩

/-- What a reaper goes by that is set up from settings `s`, which come out of a file with the given
entries. -/
structure Effective (env : Environment) (entries : List (Document × Document)) (s : Settings) :
    Prop where
  made_iff : (∃ p, (Setup.ofSettings s).policy.1 = .ok p) ↔
    ∀ row ∈ fileRows env entries, InRange row.minutes
  rules : ∀ p, (Setup.ofSettings s).policy.1 = .ok p →
    p.rules.map entry = (fileRows env entries).map Row.entry
  reaper : ∀ clock w, ((Setup.ofSettings s).begin clock).1 = .ok w →
    (Setup.ofSettings s).policy.1 = .ok w.policy
  /-- Entries that do not count change nothing, in whatever file they stand. -/
  unchanged : ∀ {path' file' d' s'}, Loads env path' file' d' s' →
    limit env (entriesOf path' d').1 = limit env entries →
    (windowEntries (entriesOf path' d').1).filter isHeeded =
      (windowEntries entries).filter isHeeded →
    (Setup.ofSettings s').policy.1 = (Setup.ofSettings s).policy.1

/-- The table of a reaper has the standard states. Each of them has the window that was set last for
it in the file, or else the standard one. -/
theorem effective_policy (h : Loads env path file d s) :
    Effective env (entriesOf path d).1 s := by
  have hstates : (fileRows env (entriesOf path d).1).map Row.status = tableStates := by
    rw [fileRows, rowsOf, List.map_map]
    exact status_standardRows _
  obtain ⟨hmade, hrules⟩ := made_of_rows hstates h.policy
  exact {
    made_iff := hmade
    rules := hrules
    reaper := fun _ _ => begin_policy
    unchanged := fun h' => h'.policy_congr h }

end

/-! ## One name in two cases -/

open Document.Yaml

def recasedText : String :=
  "staleness_windows:\n  killing: 5\n  Killing: 20\n  ready: 30\n"

def recasedTokens : List Token :=
  [.blockMappingStart, .key, .scalar "staleness_windows" true, .value, .blockMappingStart,
    .key, .scalar "killing" true, .value, .scalar "5" true,
    .key, .scalar "Killing" true, .value, .scalar "20" true,
    .key, .scalar "ready" true, .value, .scalar "30" true, .blockEnd, .blockEnd]

def recasedEntries : List (Document × Document) :=
  [(.text "staleness_windows", .map
    [(.text "killing", .int 5), (.text "Killing", .int 20), (.text "ready", .int 30)])]

theorem recased_tokens : tokens recasedText.toList = .ok recasedTokens := by
  cbv

theorem recased_read : Document.Yaml.read? recasedText = .ok (.map recasedEntries) := by
  have hlines : newlinesOnly recasedText.toList = recasedText.toList := by cbv
  have hallowed : recasedText.toList.all isAllowed = true := by decide +kernel
  have hwindows : Tag.ofPlain "staleness_windows" = .text := by decide +kernel
  have hlower : Tag.ofPlain "killing" = .text := by decide +kernel
  have hmixed : Tag.ofPlain "Killing" = .text := by decide +kernel
  have hready : Tag.ofPlain "ready" = .text := by decide +kernel
  have hnumbers : Tag.ofPlain "5" = .int ∧ Tag.ofPlain "20" = .int ∧ Tag.ofPlain "30" = .int := by
    decide +kernel
  have hnode : Node.ofTokens? recasedTokens = .ok (.mapping .map
      [(.scalar (Tag.ofPlain "staleness_windows") "staleness_windows", .mapping .map
        [(.scalar (Tag.ofPlain "killing") "killing", .scalar (Tag.ofPlain "5") "5"),
          (.scalar (Tag.ofPlain "Killing") "Killing", .scalar (Tag.ofPlain "20") "20"),
          (.scalar (Tag.ofPlain "ready") "ready", .scalar (Tag.ofPlain "30") "30")])]) := rfl
  rw [hwindows, hlower, hmixed, hready, hnumbers.1, hnumbers.2.1, hnumbers.2.2] at hnode
  have hbuilt : (Node.mapping .map
      [(.scalar .text "staleness_windows", .mapping .map
        [(.scalar .text "killing", .scalar .int "5"),
          (.scalar .text "Killing", .scalar .int "20"),
          (.scalar .text "ready", .scalar .int "30")])]).merged.build 0 =
      ⟨.map recasedEntries, none⟩ := rfl
  unfold Document.Yaml.read?
  dsimp only
  rw [hlines, hallowed, recased_tokens]
  dsimp only [bind, Except.bind, pure, Except.pure]
  rw [hnode]
  dsimp only
  rw [hbuilt]
  rfl

/-- The settings of a file that names one state twice. -/
def recased : Settings :=
  { windows := [("KILLING", 20), ("READY", 30)] }

theorem recased_loads : Loads (fun _ => none) "settings.yaml" (.holds recasedText.toUTF8)
    (.map recasedEntries) recased := by
  have hutf8 : String.fromUTF8? recasedText.toUTF8 = some recasedText := by decide +kernel
  have hread : readFile "settings.yaml" (.holds recasedText.toUTF8) =
      (.ok (.map recasedEntries), []) := by
    unfold readFile
    dsimp only
    rw [hutf8]
    dsimp only
    rw [recased_read]
  refine ⟨by decide, by rw [hread], ?_⟩
  rw [load_eq _ (by decide) hread]
  decide +kernel

/-- The later of two windows for one state counts. -/
theorem recased_effective :
    Loads (fun _ => none) "settings.yaml" (.holds recasedText.toUTF8) (.map recasedEntries)
        recased ∧
      Effective (fun _ => none) recasedEntries recased ∧
      (fileRows (fun _ => none) recasedEntries).map Row.minutes = [10, 15, -1, -1, 20, 15, -1] :=
  ⟨recased_loads, effective_policy recased_loads, by decide +kernel⟩

end FlowWarden.Settings
