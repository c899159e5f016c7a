import FlowWarden.Reaper.Cycle
/-!
# When an execution is reaped

A check that does not fail answers by two comparisons of moments: an execution is stale from the
end of its window on, and a debugged one from the end of its grace time on. `check_decided` says so,
says exactly which checks fail, and draws the conclusion that an execution that is reaped once would
be reaped at any later moment too.
-/

namespace FlowWarden

/-! ## Moments that were moved -/

theorem Moment.shift?_eq_none_iff {m : Moment} {k : Int} :
    m.shift? k = none ↔ m.clock + k < 0 ∨ Moment.limit ≤ m.clock + k := by
  unfold Moment.shift? Moment.ofClock? Moment.limit
  split <;> simp <;> omega

theorem Moment.shift?_eq_some {m start : Moment} {k : Int} (h : m.shift? k = some start) :
    start.offset = m.offset ∧ start.instant = m.instant + k := by
  unfold Moment.shift? Moment.ofClock? at h
  split at h
  · obtain rfl := Option.some.inj h
    refine ⟨rfl, ?_⟩
    simp only [Moment.instant]
    omega
  · cases h

theorem Moment.sub?_eq_none_iff {a b : Moment} :
    a.sub? b = none ↔ a.offset.isSome ≠ b.offset.isSome := by
  simp [Moment.sub?, Moment.comparable]

theorem Moment.sub?_eq_some_iff {a b : Moment} {age : Int} :
    a.sub? b = some age ↔ a.offset.isSome = b.offset.isSome ∧ a.instant - b.instant = age := by
  simp [Moment.sub?, Moment.comparable]

theorem Moment.clock_le {a b : Moment} (hoffset : b.offset = a.offset)
    (hlater : a.instant ≤ b.instant) : a.clock ≤ b.clock := by
  simp only [Moment.instant, hoffset] at hlater
  omega

namespace Reaper

variable {now : Moment} {status : Status} {rule : StalenessRule} {grace : Duration} {e : Execution}

/-! ## The window -/

/-- The moment that a rule counts from is not known, or it lies at least the window back. -/
def Outdated (now : Moment) (rule : StalenessRule) (e : Execution) : Prop :=
  e.timestamp rule.field = none ∨
    ∃ t age, e.timestamp rule.field = some t ∧ now.sub? t = some age ∧ rule.maxAge.micros ≤ age

theorem withinWindow_fails_iff :
    (∃ f, withinWindow now rule e = .error f) ↔
      ∃ t, e.timestamp rule.field = some t ∧ now.offset.isSome ≠ t.offset.isSome := by
  unfold withinWindow
  cases ht : e.timestamp rule.field with
  | none => simp
  | some t =>
    simp only [Option.some.injEq, exists_eq_left', ← Moment.sub?_eq_none_iff]
    cases now.sub? t <;> simp

theorem withinWindow_eq_ok {b : Bool} (h : withinWindow now rule e = .ok b) :
    b = false ↔ Outdated now rule e := by
  unfold withinWindow at h
  unfold Outdated
  cases ht : e.timestamp rule.field with
  | none =>
    rw [ht] at h
    simp_all
  | some t =>
    rw [ht] at h
    dsimp only at h
    cases hage : now.sub? t with
    | none =>
      rw [hage] at h
      cases h
    | some age =>
      rw [hage] at h
      obtain rfl := Except.ok.inj h
      simp [hage]

/-! ## The grace time -/

/-- The execution is being prepared, somebody debugs its pod, and it was submitted after the start
of the grace time. -/
def Spared (now : Moment) (status : Status) (grace : Duration) (e : Execution) : Prop :=
  status = .preparing ∧ e.isDevPod = true ∧
    ∃ t, e.submitTime = some t ∧ now.instant - grace.micros < t.instant

/-- It cannot be told whether an execution was submitted within the grace time. -/
inductive Graceless (now : Moment) (grace : Duration) (e : Execution) : Prop
  | unsubmitted : e.submitTime = none → Graceless now grace e
  | mixed {t} : e.submitTime = some t → t.offset.isSome ≠ now.offset.isSome → Graceless now grace e
  /-- The grace time started before the first date or after the last. -/
  | beyond : now.clock - grace.micros < 0 ∨ Moment.limit ≤ now.clock - grace.micros →
      Graceless now grace e

theorem withinGrace_fails_iff :
    (∃ f, withinGrace now grace e = .error f) ↔ Graceless now grace e := by
  unfold withinGrace
  cases hstart : now.shift? (-grace.micros) with
  | none =>
    have hbeyond := Moment.shift?_eq_none_iff.1 hstart
    exact ⟨fun _ => .beyond hbeyond, fun _ => ⟨_, rfl⟩⟩
  | some start =>
    obtain ⟨hoffset, -⟩ := Moment.shift?_eq_some hstart
    have hwithin : ¬ (now.clock - grace.micros < 0 ∨ Moment.limit ≤ now.clock - grace.micros) := by
      intro hbeyond
      rw [Moment.shift?_eq_none_iff.2 hbeyond] at hstart
      cases hstart
    cases hsubmit : e.submitTime with
    | none => exact ⟨fun _ => .unsubmitted hsubmit, fun _ => ⟨_, rfl⟩⟩
    | some t =>
      dsimp only
      by_cases hsame : t.offset.isSome = now.offset.isSome
      · have hcomparable : Moment.comparable t start = true := by
          rw [Moment.comparable, hoffset, hsame, beq_self_eq_true]
        rw [if_pos hcomparable]
        constructor
        · rintro ⟨f, hf⟩
          cases hf
        · rintro (hnone | ⟨hsome, hmixed⟩ | hbeyond)
          · rw [hsubmit] at hnone
            cases hnone
          · rw [hsubmit] at hsome
            obtain rfl := Option.some.inj hsome
            exact absurd hsame hmixed
          · exact absurd hbeyond hwithin
      · have hmixed : ¬ Moment.comparable t start = true := by
          rwa [Moment.comparable, hoffset, beq_iff_eq]
        rw [if_neg hmixed]
        exact ⟨fun _ => .mixed hsubmit hsame, fun _ => ⟨_, rfl⟩⟩

theorem withinGrace_eq_ok {b : Bool} (h : withinGrace now grace e = .ok b) :
    b = true ↔ ∃ t, e.submitTime = some t ∧ now.instant - grace.micros < t.instant := by
  unfold withinGrace at h
  cases hstart : now.shift? (-grace.micros) with
  | none =>
    rw [hstart] at h
    cases h
  | some start =>
    obtain ⟨-, hinstant⟩ := Moment.shift?_eq_some hstart
    rw [hstart] at h
    cases hsubmit : e.submitTime with
    | none =>
      rw [hsubmit] at h
      cases h
    | some t =>
      rw [hsubmit] at h
      dsimp only at h
      split at h
      · obtain rfl := Except.ok.inj h
        simp [hinstant, Int.sub_eq_add_neg]
      · cases h

/-! ## The decision -/

/-- An execution that cannot be decided about at a moment. -/
inductive Undecided (now : Moment) (status : Status) (rule : StalenessRule) (grace : Duration)
    (e : Execution) : Prop
  /-- Only one of the two moments of the window knows its offset. -/
  | window {t} : e.timestamp rule.field = some t → now.offset.isSome ≠ t.offset.isSome →
      Undecided now status rule grace e
  /-- The window has passed, and the execution is a debugged one that is being prepared. -/
  | graceless : Outdated now rule e → status = .preparing → e.isDevPod = true →
      Graceless now grace e → Undecided now status rule grace e

/-- Once the window can be compared, only the grace time is in question. -/
theorem undecided_iff {within : Bool} (h : withinWindow now rule e = .ok within) :
    Undecided now status rule grace e ↔
      within = false ∧ (status = .preparing ∧ e.isDevPod = true) ∧ Graceless now grace e := by
  rw [withinWindow_eq_ok h]
  constructor
  · rintro (⟨ht, hmixed⟩ | ⟨hold, hs, hdev, hgraceless⟩)
    · obtain ⟨f, hf⟩ := withinWindow_fails_iff.2 ⟨_, ht, hmixed⟩
      rw [h] at hf
      cases hf
    · exact ⟨hold, ⟨hs, hdev⟩, hgraceless⟩
  · rintro ⟨hold, ⟨hs, hdev⟩, hgraceless⟩
    exact .graceless hold hs hdev hgraceless

/-- What a decision says about an execution. -/
inductive Answer (now : Moment) (status : Status) (rule : StalenessRule) (grace : Duration)
    (e : Execution) : Except Failure Verdict → Prop
  | failed {f} : Undecided now status rule grace e → Answer now status rule grace e (.error f)
  | decided {v} : ¬ Undecided now status rule grace e → (v = .fresh ↔ ¬ Outdated now rule e) →
      (v = .stale ↔ Outdated now rule e ∧ ¬ Spared now status grace e) →
      Answer now status rule grace e (.ok v)

theorem verdict_answer (now : Moment) (status : Status) (rule : StalenessRule) (grace : Duration)
    (e : Execution) : Answer now status rule grace e (verdict now status rule grace e) := by
  unfold verdict
  cases hwindow : withinWindow now rule e with
  | error f =>
    obtain ⟨t, ht, hmixed⟩ := withinWindow_fails_iff.1 ⟨f, hwindow⟩
    exact .failed (.window ht hmixed)
  | ok within =>
    have houtdated := withinWindow_eq_ok hwindow
    have hundecided : Undecided now status rule grace e ↔ _ := undecided_iff hwindow
    cases within with
    | true =>
      have hfresh : ¬ Outdated now rule e := by simpa using houtdated
      exact .decided (by simp [hundecided]) (by simp [hfresh]) (by simp [hfresh])
    | false =>
      have hold : Outdated now rule e := houtdated.1 rfl
      by_cases hdev : status = .preparing ∧ e.isDevPod = true
      · dsimp only
        rw [if_pos hdev]
        cases hgrace : withinGrace now grace e with
        | error f =>
          have hgraceless := withinGrace_fails_iff.1 ⟨f, hgrace⟩
          exact .failed (.graceless hold hdev.1 hdev.2 hgraceless)
        | ok spared =>
          have hgraceful : ¬ Graceless now grace e := by
            simp [← withinGrace_fails_iff, hgrace]
          have hspared : spared = true ↔ Spared now status grace e := by
            simp [withinGrace_eq_ok hgrace, Spared, hdev]
          refine .decided (by simp [hundecided, hgraceful]) ?_ ?_
          · cases spared <;> simp [hold]
          · rw [← hspared]
            cases spared <;> simp [hold]
      · have hspared : ¬ Spared now status grace e := fun hs => hdev ⟨hs.1, hs.2.1⟩
        dsimp only
        rw [if_neg hdev]
        exact .decided (by simp [hundecided, hdev]) (by simp [hold]) (by simp [hold, hspared])

theorem verdict_fails_iff :
    (∃ f, verdict now status rule grace e = .error f) ↔ Undecided now status rule grace e := by
  have hanswer := verdict_answer now status rule grace e
  cases hv : verdict now status rule grace e with
  | error f =>
    rw [hv] at hanswer
    cases hanswer with
    | failed h => simp [h]
  | ok v =>
    rw [hv] at hanswer
    cases hanswer with
    | decided h => simp [h]

theorem verdict_eq_ok {v : Verdict} (h : verdict now status rule grace e = .ok v) :
    (v = .fresh ↔ ¬ Outdated now rule e) ∧
      (v = .stale ↔ Outdated now rule e ∧ ¬ Spared now status grace e) := by
  have hanswer := verdict_answer now status rule grace e
  rw [h] at hanswer
  cases hanswer with
  | decided _ hfresh hstale => exact ⟨hfresh, hstale⟩

theorem verdict_stale (h : verdict now status rule grace e = .ok .stale) : Outdated now rule e :=
  ((verdict_eq_ok h).2.1 rfl).1

/-! ## Later moments -/

theorem Outdated.later {now' : Moment} (h : Outdated now rule e) (hoffset : now'.offset = now.offset)
    (hlater : now.instant ≤ now'.instant) : Outdated now' rule e := by
  rcases h with hnone | ⟨t, age, ht, hage, hle⟩
  · exact .inl hnone
  · obtain ⟨hsame, rfl⟩ := Moment.sub?_eq_some_iff.1 hage
    refine .inr ⟨t, now'.instant - t.instant, ht, Moment.sub?_eq_some_iff.2 ⟨?_, rfl⟩, by omega⟩
    rw [hoffset, hsame]

theorem Spared.earlier {now' : Moment} (h : Spared now' status grace e)
    (hlater : now.instant ≤ now'.instant) : Spared now status grace e := by
  obtain ⟨hs, hdev, t, ht, hlt⟩ := h
  exact ⟨hs, hdev, t, ht, by omega⟩

/-- A later moment can be decided about too. The grace time does not start before the first date,
since it did not at the earlier moment, and not after the moment itself. -/
theorem Undecided.earlier {now' : Moment} (h : Undecided now' status rule grace e)
    (hold : Outdated now rule e) (hgrace : 0 ≤ grace.micros) (hoffset : now'.offset = now.offset)
    (hlater : now.instant ≤ now'.instant) : Undecided now status rule grace e := by
  have hclock := Moment.clock_le hoffset hlater
  cases h with
  | window ht hmixed => exact .window ht (hoffset ▸ hmixed)
  | graceless _ hs hdev hgraceless =>
    refine .graceless hold hs hdev ?_
    cases hgraceless with
    | unsubmitted hnone => exact .unsubmitted hnone
    | mixed ht hmixed => exact .mixed ht (hoffset ▸ hmixed)
    | beyond hbeyond =>
      have hlimit := now'.upper
      rw [← Moment.limit] at hlimit
      exact .beyond (by omega)

theorem verdict_later {now' : Moment} (h : verdict now status rule grace e = .ok .stale)
    (hgrace : 0 ≤ grace.micros) (hoffset : now'.offset = now.offset)
    (hlater : now.instant ≤ now'.instant) : verdict now' status rule grace e = .ok .stale := by
  obtain ⟨hold, hspared⟩ := (verdict_eq_ok h).2.1 rfl
  cases hv : verdict now' status rule grace e with
  | error f =>
    have hundecided := (verdict_fails_iff.1 ⟨f, hv⟩).earlier hold hgrace hoffset hlater
    obtain ⟨f', hf'⟩ := verdict_fails_iff.2 hundecided
    rw [h] at hf'
    cases hf'
  | ok v =>
    rw [(verdict_eq_ok hv).2.2 ⟨hold.later hoffset hlater, fun hs => hspared (hs.earlier hlater)⟩]

/-! ## The check of a cycle -/

namespace World

variable {w : World} {l : Listed}

theorem check_of_reading (hread : w.readClock.1 = .ok now) :
    (w.check status rule l).1 = verdict now status rule w.devPodGrace l.execution := by
  have hpair : w.readClock = (.ok now, w.readClock.2) := Prod.ext hread rfl
  have hgrace : w.readClock.2.devPodGrace = w.devPodGrace := rfl
  unfold check
  rw [hpair]
  dsimp only
  rw [hgrace]
  split
  next hverdict => rw [hverdict]
  next => rfl

theorem check_of_failure {f : Failure} (hread : w.readClock.1 = .error f) :
    (w.check status rule l).1 = .error f := by
  have hpair : w.readClock = (.error f, w.readClock.2) := Prod.ext hread rfl
  unfold check
  rw [hpair]

end World

/-- How a check decides about an execution that is listed under a state. -/
structure Decided (w : World) (status : Status) (rule : StalenessRule) (l : Listed) : Prop where
  fails_iff : (∃ f, (w.check status rule l).1 = .error f) ↔
    (∃ f, w.readClock.1 = .error f) ∨
      ∃ now, w.readClock.1 = .ok now ∧ Undecided now status rule w.devPodGrace l.execution
  fresh_iff : ∀ now v, w.readClock.1 = .ok now → (w.check status rule l).1 = .ok v →
    (v = .fresh ↔ ¬ Outdated now rule l.execution)
  stale_iff : ∀ now v, w.readClock.1 = .ok now → (w.check status rule l).1 = .ok v →
    (v = .stale ↔ Outdated now rule l.execution ∧ ¬ Spared now status w.devPodGrace l.execution)
  /-- Whoever checks the same execution later, by a clock with the same offset, reaps it too. -/
  later : 0 ≤ w.devPodGrace.micros → (w.check status rule l).1 = .ok .stale →
    ∀ (now : Moment) (w' : World) (now' : Moment),
      w.readClock.1 = .ok now → w'.readClock.1 = .ok now' →
      w'.devPodGrace = w.devPodGrace → now'.offset = now.offset → now.instant ≤ now'.instant →
      (w'.check status rule l).1 = .ok .stale
  /-- A moment in the future does not lie a window back, unless the window is negative. -/
  ahead : rule.isExempt = false → ∀ now t, w.readClock.1 = .ok now →
    l.execution.timestamp rule.field = some t → now.instant < t.instant →
    (w.check status rule l).1 ≠ .ok .stale

/-- A check reaps an execution whose window and whose grace time have both passed, and fails only
where the clock does or moments cannot be compared. -/
theorem check_decided (w : World) (status : Status) (rule : StalenessRule) (l : Listed) :
    Decided w status rule l where
  fails_iff := by
    cases hread : w.readClock.1 with
    | error f => simp [World.check_of_failure hread]
    | ok now => simp [World.check_of_reading hread, verdict_fails_iff]
  fresh_iff := by
    intro now v hread hcheck
    rw [World.check_of_reading hread] at hcheck
    exact (verdict_eq_ok hcheck).1
  stale_iff := by
    intro now v hread hcheck
    rw [World.check_of_reading hread] at hcheck
    exact (verdict_eq_ok hcheck).2
  later := by
    intro hgrace hcheck now w' now' hread hread' hsame hoffset hlater
    rw [World.check_of_reading hread] at hcheck
    rw [World.check_of_reading hread', hsame]
    exact verdict_later hcheck hgrace hoffset hlater
  ahead := by
    intro hmonitored now t hread ht hlt hcheck
    rw [World.check_of_reading hread] at hcheck
    rw [StalenessRule.isExempt, Duration.isNegative, decide_eq_false_iff_not] at hmonitored
    rcases verdict_stale hcheck with hnone | ⟨t', age, ht', hage, hle⟩
    · rw [ht] at hnone
      cases hnone
    · rw [ht] at ht'
      obtain rfl := Option.some.inj ht'
      obtain ⟨-, rfl⟩ := Moment.sub?_eq_some_iff.1 hage
      omega

/-- A window of two days from the submission on. -/
def twoDays : StalenessRule :=
  ⟨{ micros := 172800000000 }, .submit⟩

/-- A reaper with a grace time of two days, whose clock shows so many microseconds. -/
def dayTwo (clock : Moment) : World where
  policy := .ofRules [(.preparing, twoDays)]
  interval := .int 600
  grace := .int 30
  devPodGrace := { micros := 172800000000 }
  clock := { now := clock }

/-- An execution whose pod somebody debugs, submitted at the first moment of all. -/
def lingering : Listed where
  place := 0
  execution := {
    id := 1, flow := "daily", status := .preparing, user := "ada"
    submitTime := Moment.ofClock? 0 none
    parameters := [(.text "enable.dev.pod", .text " True ")] }

/-- At the very end of both times it is reaped, and so it is a day later. -/
theorem lingering_decided :
    ((dayTwo { clock := 172800000000, offset := none }).check .preparing twoDays lingering).1 = .ok .stale ∧
      ((dayTwo { clock := 259200000000, offset := none }).check .preparing twoDays lingering).1 =
        .ok .stale := by
  have hstale : ((dayTwo { clock := 172800000000, offset := none }).check .preparing twoDays
      lingering).1 = .ok .stale := rfl
  exact ⟨hstale, (check_decided _ _ _ _).later (by decide) hstale _ _ _ rfl rfl rfl rfl (by decide)⟩

end Reaper

end FlowWarden
