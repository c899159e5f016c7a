import FlowWarden.Proofs.Log.Place
/-!
# The logs of attempts are kept apart

Opening the log of an attempt, writing to it and closing it deal with one logger and with one file.
`logs_apart` says whose these are: the logger belongs to no other attempt, and over any run each
logger writes to its own attempt's file alone. The file belongs to no other attempt either where the
flows lead straight on. A flow with slashes can lead back, to the log of another flow.
-/

namespace FlowWarden.Log

variable {directory : String} {a : Attempt} {l l' : Loggers}

namespace Files

theorem read?_append (fs : Files) (place other : Place) (text : String) (h : other ≠ place) :
    (fs.append place text).read? other = fs.read? other := by
  unfold append read?
  rw [Keyed.find?_insert, if_neg (Ne.symm h)]

theorem makeAlong_frame (place : Place) (names : List String) (fs : Files) :
    (makeAlong place names fs).2.files = fs.files ∧
      (makeAlong place names fs).2.here = fs.here := by
  induction names generalizing place fs with
  | nil => exact ⟨rfl, rfl⟩
  | cons name names ih =>
    unfold makeAlong
    dsimp only
    split
    · exact ⟨rfl, rfl⟩
    split
    · exact ⟨rfl, rfl⟩
    split
    · exact ih _ fs
    · exact ih _ _

/-- Making directories leaves the files alone. -/
theorem makeDirectories_frame (fs : Files) (path : String) :
    (fs.makeDirectories path).2.files = fs.files ∧ (fs.makeDirectories path).2.here = fs.here := by
  unfold makeDirectories
  split
  · exact ⟨rfl, rfl⟩
  · exact makeAlong_frame _ _ fs

theorem openFile_empty {place : Place} {fs fs' : Files} (h : fs.openFile place false = .ok fs') :
    fs'.here = fs.here ∧
      ∀ other, fs'.read? other = if place = other then some "" else fs.read? other := by
  unfold openFile at h
  split at h
  · cases h
  · obtain rfl := Except.ok.inj h
    exact ⟨rfl, fun other => Keyed.find?_insert ..⟩

end Files

theorem Attempt.place_congr {fs fs' : Files} (h : fs'.here = fs.here) :
    a.place fs' directory = a.place fs directory := by
  unfold place Files.resolve Files.start
  rw [h]

theorem Attempt.loggerName_ne_root (a : Attempt) : a.loggerName ≠ rootName := by
  intro h
  have hhead := congrArg (fun s => s.toList.head?) h
  simp [loggerName, rootName] at hhead

/-! ## What one attempt changes -/

/-- Nothing but the logger and the log of one attempt has changed. -/
structure Confined (directory : String) (a : Attempt) (l l' : Loggers) : Prop where
  here : l'.files.here = l.files.here
  loggers : ∀ name, name ≠ a.loggerName → l'.find name = l.find name
  files : ∀ place, place ≠ a.place l.files directory →
    l'.files.read? place = l.files.read? place

theorem Confined.refl (l : Loggers) : Confined directory a l l :=
  ⟨rfl, fun _ _ => rfl, fun _ _ => rfl⟩

theorem Confined.trans {l'' : Loggers} (h : Confined directory a l l')
    (h' : Confined directory a l' l'') : Confined directory a l l'' where
  here := h'.here.trans h.here
  loggers name hname := (h'.loggers name hname).trans (h.loggers name hname)
  files place hplace := by
    rw [h'.files place (by rwa [Attempt.place_congr h.here]), h.files place hplace]

namespace Loggers

theorem find_congr (h : l'.byName = l.byName) (name : String) : l'.find name = l.find name := by
  unfold find
  rw [h]

theorem find_set (l : Loggers) (name other : String) (logger : Logger) :
    (l.set name logger).find other = if name = other then logger else l.find other := by
  unfold find set
  rw [Keyed.find?_insert]
  split <;> rfl

theorem set_confined (directory : String) (a : Attempt) (l : Loggers) (logger : Logger) :
    Confined directory a l (l.set a.loggerName logger) where
  here := rfl
  loggers name hname := by rw [find_set, if_neg hname.symm]
  files _ _ := rfl

end Loggers

/-- How the opening of a log ends. -/
inductive Opening (directory : String) (a : Attempt) (level : Level) (l : Loggers) :
    Except FileFault Unit → Loggers → Prop
  /-- The log was open already. -/
  | again (hopen : (l.find a.loggerName).handlers ≠ []) : Opening directory a level l (.ok ()) l
  | failed {f : FileFault} {l' : Loggers} (hclosed : (l.find a.loggerName).handlers = [])
      (hconfined : Confined directory a l l') (hfiles : l'.files.files = l.files.files)
      (hhandlers : (l'.find a.loggerName).handlers = []) : Opening directory a level l (.error f) l'
  /-- The log is open now, and empty. -/
  | fresh {l' : Loggers} (hclosed : (l.find a.loggerName).handlers = [])
      (hconfined : Confined directory a l l')
      (hlogger : l'.find a.loggerName =
        { level, propagates := false, handlers :=
            [{ level, target := .file (a.place l.files directory), named := false }] })
      (hempty : l'.files.read? (a.place l.files directory) = some "") :
      Opening directory a level l (.ok ()) l'

theorem openAttempt_opening (l : Loggers) (directory : String) (a : Attempt) (level : Level) :
    Opening directory a level l (l.openAttempt directory a level).1
      (l.openAttempt directory a level).2 := by
  unfold Loggers.openAttempt
  dsimp only
  by_cases hopen : (l.find a.loggerName).handlers = []
  swap
  · rw [if_pos (by simpa using hopen)]
    exact .again hopen
  rw [if_neg (by simpa using hopen)]
  -- The logger has its level, and passes nothing on, before the file is looked for.
  have hset := Loggers.set_confined directory a l
    { l.find a.loggerName with level, propagates := false }
  have hunset : ((l.set a.loggerName { l.find a.loggerName with level, propagates := false }).find
      a.loggerName).handlers = [] := by
    rw [Loggers.find_set, if_pos rfl]
    exact hopen
  have hfiles : (l.set a.loggerName
      { l.find a.loggerName with level, propagates := false }).files = l.files := rfl
  generalize l.set a.loggerName { l.find a.loggerName with level, propagates := false } = l₁
    at hset hunset hfiles ⊢
  rw [hfiles]
  obtain ⟨hkept, hhere⟩ := l.files.makeDirectories_frame directory
  rcases hmade : l.files.makeDirectories directory with ⟨made, files⟩
  rw [hmade] at hkept hhere
  have hplace : files.resolve (a.path directory) = a.place l.files directory :=
    Attempt.place_congr hhere
  have hread (place : Place) : files.read? place = l.files.read? place := by
    unfold Files.read?
    rw [hkept]
  have hconfined : Confined directory a l { l₁ with files } :=
    ⟨hhere, hset.loggers, fun place _ => hread place⟩
  cases made with
  | error f => exact .failed hopen hconfined hkept hunset
  | ok =>
    dsimp only
    split
    next f _ => exact .failed hopen hconfined hkept hunset
    next files' hopened =>
      obtain ⟨hhere', hread'⟩ := Files.openFile_empty hopened
      rw [hplace] at hread' ⊢
      have hagain := Loggers.set_confined directory a l₁
        { level, propagates := false, handlers :=
            [{ level, target := .file (a.place l.files directory), named := false }] }
      refine .fresh hopen ⟨hhere'.trans hhere, (hset.trans hagain).loggers, fun place hne => ?_⟩ ?_ ?_
      · exact (hread' place).trans ((if_neg hne.symm).trans (hread place))
      · exact (Loggers.find_set ..).trans (if_pos rfl)
      · exact (hread' _).trans (if_pos rfl)

theorem Opening.confined {level : Level} {result : Except FileFault Unit}
    (h : Opening directory a level l result l') : Confined directory a l l' := by
  cases h with
  | again => exact .refl l
  | failed _ hconfined => exact hconfined
  | fresh _ hconfined => exact hconfined

namespace Loggers

theorem close_confined (l : Loggers) (directory : String) (a : Attempt) :
    Confined directory a l (l.close a.loggerName) :=
  set_confined directory a l _

theorem find_close (l : Loggers) (name : String) : ((l.close name).find name).handlers = [] := by
  rw [close, find_set, if_pos rfl]

/-! ## What a record changes -/

/-- Handlers that write to one file change no more than this file. -/
theorem foldl_write_frame {handlers : List Handler} {place : Place}
    (h : ∀ handler ∈ handlers, handler.target = .file place) (e : Entry) (l : Loggers) :
    (handlers.foldl (write e) l).byName = l.byName ∧
      (handlers.foldl (write e) l).files.here = l.files.here ∧
      ∀ other, other ≠ place →
        (handlers.foldl (write e) l).files.read? other = l.files.read? other := by
  induction handlers generalizing l with
  | nil => exact ⟨rfl, rfl, fun _ _ => rfl⟩
  | cons handler handlers ih =>
    obtain ⟨hnames, hhere, hread⟩ :=
      ih (fun other hother => h other (List.mem_cons_of_mem _ hother)) (l.write e handler)
    rw [List.foldl_cons, hnames, hhere]
    have htarget := h handler List.mem_cons_self
    unfold write at hread ⊢
    rw [htarget] at hread ⊢
    split at hread
    next hdropped =>
      rw [if_pos hdropped]
      exact ⟨rfl, rfl, hread⟩
    next hwritten =>
      rw [if_neg hwritten]
      refine ⟨rfl, rfl, fun other hother => ?_⟩
      rw [hread other hother]
      exact Files.read?_append _ _ _ _ hother

/-- A record reaches the handlers of a logger that does not pass it on, and no others. -/
theorem reached_chain (hstops : (l.find a.loggerName).propagates = false) :
    reached (l.chain a.loggerName) = (l.find a.loggerName).handlers := by
  unfold chain
  rw [if_neg a.loggerName_ne_root, List.cons_append, List.map_cons, reached, hstops]
  simp

end Loggers

/-! ## Runs -/

/-- The loggers of attempts, as they are kept: each writes to the log of its own attempt, and passes
no record on while it is open. -/
structure Sound (directory : String) (l : Loggers) : Prop where
  own : ∀ a : Attempt, ∀ h ∈ (l.find a.loggerName).handlers,
    h.target = .file (a.place l.files directory)
  stops : ∀ a : Attempt, (l.find a.loggerName).handlers ≠ [] →
    (l.find a.loggerName).propagates = false

theorem Sound.log_confined (h : Sound directory l)
    (hstops : (l.find a.loggerName).propagates = false) (level : Level) (message : String) :
    Confined directory a l (l.log ⟨level, a.loggerName, message⟩) ∧
      (l.log ⟨level, a.loggerName, message⟩).byName = l.byName := by
  unfold Loggers.log
  dsimp only
  split
  · exact ⟨.refl l, rfl⟩
  rw [Loggers.reached_chain hstops]
  split
  next hclosed =>
    split
    · exact ⟨.refl l, rfl⟩
    · exact ⟨⟨rfl, fun _ _ => rfl, fun _ _ => rfl⟩, rfl⟩
  next hopen =>
    obtain ⟨hnames, hhere, hread⟩ := Loggers.foldl_write_frame (h.own a)
      ⟨level, a.loggerName, message⟩ l
    exact ⟨⟨hhere, fun name _ => Loggers.find_congr hnames name, hread⟩, hnames⟩

/-- It is enough to look at the one logger that has changed. -/
theorem Sound.of_confined (h : Sound directory l) (hconfined : Confined directory a l l')
    (hown : ∀ handler ∈ (l'.find a.loggerName).handlers,
      handler.target = .file (a.place l.files directory))
    (hstops : (l'.find a.loggerName).handlers ≠ [] →
      (l'.find a.loggerName).propagates = false) : Sound directory l' where
  own b handler hmem := by
    rw [Attempt.place_congr hconfined.here]
    by_cases hb : b = a
    · rw [hb] at hmem ⊢
      exact hown handler hmem
    · rw [hconfined.loggers _ fun heq => hb (Attempt.loggerName_injective heq)] at hmem
      exact h.own b handler hmem
  stops b hopen := by
    by_cases hb : b = a
    · rw [hb] at hopen ⊢
      exact hstops hopen
    · rw [hconfined.loggers _ fun heq => hb (Attempt.loggerName_injective heq)] at hopen ⊢
      exact h.stops b hopen

/-- What is done with the log of an attempt. There are no records before it is opened: the logger
would pass them on. -/
inductive Step (directory : String) (a : Attempt) (l : Loggers) : Loggers → Prop
  | opening (level : Level) : Step directory a l (l.openAttempt directory a level).2
  | record (level : Level) (message : String)
      (hstops : (l.find a.loggerName).propagates = false) :
      Step directory a l (l.log ⟨level, a.loggerName, message⟩)
  | closing : Step directory a l (l.close a.loggerName)

/-- The logs of some attempts are used, one step after another. -/
inductive Run (directory : String) : List Attempt → Loggers → Loggers → Prop
  | done (l : Loggers) : Run directory [] l l
  | next {a : Attempt} {as : List Attempt} {l l' l'' : Loggers} (hstep : Step directory a l l')
      (hrest : Run directory as l' l'') : Run directory (a :: as) l l''

/-- No attempt has its log open. -/
def Unopened (l : Loggers) : Prop :=
  ∀ a : Attempt, (l.find a.loggerName).handlers = []

theorem Unopened.sound (h : Unopened l) (directory : String) : Sound directory l where
  own a handler hmem := by
    rw [h a] at hmem
    cases hmem
  stops a hopen := absurd (h a) hopen

theorem Step.confined (hstep : Step directory a l l') (h : Sound directory l) :
    Confined directory a l l' := by
  cases hstep with
  | opening level => exact (openAttempt_opening l directory a level).confined
  | record level message hstops => exact (h.log_confined hstops level message).1
  | closing => exact l.close_confined directory a

theorem Opening.sound {level : Level} {result : Except FileFault Unit}
    (hopening : Opening directory a level l result l') (h : Sound directory l) :
    Sound directory l' := by
  have hconfined := hopening.confined
  cases hopening with
  | again => exact h
  | failed _ _ _ hhandlers =>
    exact h.of_confined hconfined (by simp [hhandlers]) (by simp [hhandlers])
  | fresh _ _ hlogger => exact h.of_confined hconfined (by simp [hlogger]) (by simp [hlogger])

theorem Step.sound (hstep : Step directory a l l') (h : Sound directory l) :
    Sound directory l' := by
  have hconfined := hstep.confined h
  cases hstep with
  | opening level => exact (openAttempt_opening l directory a level).sound h
  | record level message hstops =>
    have hfind := Loggers.find_congr (h.log_confined hstops level message).2 a.loggerName
    refine h.of_confined hconfined ?_ ?_
    · rw [hfind]
      exact h.own a
    · rw [hfind]
      exact h.stops a
  | closing =>
    have hclosed := l.find_close a.loggerName
    refine h.of_confined hconfined ?_ fun hopen => absurd hclosed hopen
    rw [hclosed]
    exact fun handler hmem => absurd hmem List.not_mem_nil

/-- Using the logs of some attempts leaves the loggers of all others alone, and their logs unless one
lies at the same place. -/
structure Kept (directory : String) (as : List Attempt) (l l' : Loggers) (b : Attempt) : Prop where
  here : l'.files.here = l.files.here
  logger : b ∉ as → l'.find b.loggerName = l.find b.loggerName
  file : (∀ a ∈ as, a.place l.files directory ≠ b.place l.files directory) →
    l'.files.read? (b.place l.files directory) = l.files.read? (b.place l.files directory)

theorem Run.sound {as : List Attempt} (hrun : Run directory as l l') (h : Sound directory l) :
    Sound directory l' := by
  induction hrun with
  | done => exact h
  | next hstep _ ih => exact ih (hstep.sound h)

theorem Run.kept {as : List Attempt} (hrun : Run directory as l l') (h : Sound directory l)
    (b : Attempt) : Kept directory as l l' b := by
  induction hrun with
  | done l => exact ⟨rfl, fun _ => rfl, fun _ => rfl⟩
  | next hstep _ ih =>
    have hconfined := hstep.confined h
    have hrest := ih (hstep.sound h)
    refine ⟨hrest.here.trans hconfined.here, fun hb => ?_, fun hplaces => ?_⟩
    · rw [List.mem_cons, not_or] at hb
      rw [hrest.logger hb.2,
        hconfined.loggers _ fun heq => hb.1 (Attempt.loggerName_injective heq)]
    · have hlater := hrest.file
      rw [Attempt.place_congr hconfined.here] at hlater
      rw [hlater, hconfined.files _ (hplaces _ List.mem_cons_self).symm]
      intro c hc
      rw [Attempt.place_congr hconfined.here]
      exact hplaces c (List.mem_cons_of_mem _ hc)

/-! ## Two attempts -/

/-- What opening the log of one attempt does to the log of another one. -/
structure Beside (directory : String) (a b : Attempt) (l : Loggers)
    (result : Except FileFault Unit) (l' : Loggers) : Prop where
  logger : a ≠ b → l'.find b.loggerName = l.find b.loggerName
  file : a.place l.files directory ≠ b.place l.files directory →
    l'.files.read? (b.place l.files directory) = l.files.read? (b.place l.files directory)
  /-- What lies at the same place is emptied. -/
  emptied : a.place l.files directory = b.place l.files directory →
    (l.find a.loggerName).handlers = [] → result = .ok () →
      l'.files.read? (b.place l.files directory) = some ""

theorem Opening.beside {level : Level} {result : Except FileFault Unit}
    (hopening : Opening directory a level l result l') (b : Attempt) :
    Beside directory a b l result l' where
  logger hne := hopening.confined.loggers _ fun heq => hne (Attempt.loggerName_injective heq).symm
  file hne := hopening.confined.files _ hne.symm
  emptied hplace hclosed hok := by
    rw [← hplace]
    cases hopening with
    | again hopen => exact absurd hclosed hopen
    | failed => cases hok
    | fresh _ _ _ hempty => exact hempty

/-- What tells the logs of two attempts in a directory apart, and what does not. -/
structure Apart (directory : String) (a b : Attempt) : Prop where
  path : a.path directory = b.path directory → a = b
  loggerName : a.loggerName = b.loggerName → a = b
  place_iff : ∀ fs, a.place fs directory = b.place fs directory ↔
    a.folder fs directory = b.folder fs directory ∧ a.stem = b.stem ∧
      a.execution = b.execution ∧ a.number = b.number
  straight : a.Straight → b.Straight → ∀ fs, a.place fs directory = b.place fs directory → a = b
  unslashed : '/' ∉ a.flow.toList → a.Straight
  /-- No log is out of the reach of all other flows. -/
  detour : a.detour ≠ a ∧ ∀ fs, a.detour.place fs directory = a.place fs directory
  opening : ∀ (l : Loggers) (level : Level), Opening directory a level l
    (l.openAttempt directory a level).1 (l.openAttempt directory a level).2
  beside : ∀ (l : Loggers) (level : Level), Beside directory a b l
    (l.openAttempt directory a level).1 (l.openAttempt directory a level).2
  unopened : ∀ l, Unopened l → Sound directory l
  runs : ∀ as l l', Sound directory l → Run directory as l l' →
    Sound directory l' ∧ Kept directory as l l' b

/-- The paths and the loggers of two attempts differ, and so do their files as long as the flows lead
straight on. What is done with one log then leaves the other one alone. But each log can also be
reached by a detour, and is emptied that way. -/
theorem logs_apart (directory : String) (a b : Attempt) : Apart directory a b where
  path h := Attempt.path_injective directory h
  loggerName h := Attempt.loggerName_injective h
  place_iff _ := Attempt.place_eq_iff
  straight ha hb _ h := Attempt.eq_of_place_eq ha hb h
  unslashed := Attempt.straight_of_notMem
  detour := ⟨a.detour_ne, fun fs => a.detour_place fs directory⟩
  opening l level := openAttempt_opening l directory a level
  beside l level := (openAttempt_opening l directory a level).beside b
  unopened _ h := h.sound directory
  runs _ _ _ h hrun := ⟨hrun.sound h, hrun.kept h b⟩

theorem unopened_empty : Unopened {} := by
  intro a
  have hfind : Keyed.find? a.loggerName [(rootName, ({ level := warning } : Logger))] = none := by
    rw [Keyed.find?_cons, if_neg a.loggerName_ne_root.symm]
    rfl
  unfold Loggers.find
  rw [hfind]
  rfl

/-- The loggers after the first record of an attempt. -/
def begun (a : Attempt) : Loggers :=
  (({} : Loggers).openAttempt "logs" a).2.log ⟨info, a.loggerName, "started"⟩

/-- The logs of `daily.1.2.0` and `daily.1.2` belong to different flows, and to open the second one
leaves the first one as it is. -/
theorem dotted_apart :
    let dotted : Attempt := ⟨"daily.1", 2, 0⟩
    let retried : Attempt := ⟨"daily", 1, 2⟩
    let reopened := ((begun dotted).openAttempt "logs" retried).2
    Sound "logs" (begun dotted) ∧ Run "logs" [retried] (begun dotted) reopened ∧
      reopened.files.read? (dotted.place (begun dotted).files "logs") = some "INFO - started\n" := by
  intro dotted retried reopened
  have hstraight : dotted.Straight ∧ retried.Straight :=
    ⟨(logs_apart "logs" dotted dotted).unslashed (by decide),
      (logs_apart "logs" retried retried).unslashed (by decide)⟩
  have hbegun : Sound "logs" (begun dotted) := by
    have hdotted := logs_apart "logs" dotted dotted
    exact (hdotted.runs _ _ _ (hdotted.unopened {} unopened_empty)
      (.next (.opening info) (.next (.record info "started" (by decide +kernel)) (.done _)))).1
  have happart := logs_apart "logs" retried dotted
  have hrun : Run "logs" [retried] (begun dotted) reopened := .next (.opening info) (.done _)
  refine ⟨hbegun, hrun, ?_⟩
  rw [(happart.runs _ _ _ hbegun hrun).2.file]
  · decide +kernel
  · intro a ha
    rw [List.mem_singleton.1 ha]
    intro hplace
    exact absurd (happart.straight hstraight.2 hstraight.1 _ hplace) (by decide)

/-- A detour is another attempt, and to open its log empties the log that it leads to. -/
theorem daily_emptied :
    let daily : Attempt := { flow := "daily", execution := 1 }
    let reopened := (begun daily).openAttempt "logs" daily.detour
    daily.detour ≠ daily ∧
      (begun daily).files.read? (daily.place (begun daily).files "logs") = some "INFO - started\n" ∧
      reopened.1 = .ok () ∧
      reopened.2.files.read? (daily.place (begun daily).files "logs") = some "" := by
  exact ⟨by decide, by decide +kernel, by decide +kernel, by decide +kernel⟩

end FlowWarden.Log
