import FlowWarden.Log.Setup
import FlowWarden.Proofs.Quantity.Canonical
import Mathlib.Data.String.Basic
/-!
# Where the log of an attempt lies

The label of an attempt is read from its end: a written integer has no point, so the last two points
set the two numbers off, and the flow before them may have points of its own. Hence no two attempts
share a label, a logger's name or a path (`label_injective`, `loggerName_injective`,
`path_injective`).

A path leads to a place by the names between its slashes, and a flow may have slashes. `place_eq`
says what the flow does to the place, and `place_eq_iff` which attempts have their logs at one
place. Flows that lead straight on keep their logs apart (`eq_of_place_eq`), but each log can also be
reached by a flow that makes a detour (`detour_place`).
-/

namespace FlowWarden.Log

/-! ## Labels -/

/-- Where a separator comes for the last time, a text falls apart in one way. -/
theorem append_separator_inj {c : Char} {s t u v : List Char} (ht : c ∉ t) (hv : c ∉ v)
    (h : s ++ c :: t = u ++ c :: v) : s = u ∧ t = v := by
  have hsplit := congrArg (List.splitOn c) h
  rw [List.splitOn_append_cons_self, List.splitOn_append_cons_self, List.splitOn_eq_singleton ht,
    List.splitOn_eq_singleton hv] at hsplit
  obtain rfl : t = v := List.singleton_inj.1 (List.append_inj_right' hsplit rfl)
  exact ⟨List.append_cancel_right h, rfl⟩

/-- A written integer has its sign and its digits, and no other character. -/
theorem notMem_toString {c : Char} (hsign : c ≠ '-') (hdigit : c.isDigit = false) (n : Int) :
    c ∉ (toString n).toList := by
  intro hmem
  rw [toList_toString, List.mem_append] at hmem
  rcases hmem with hmem | hmem
  · unfold signText at hmem
    split at hmem
    · exact hsign (List.mem_singleton.1 hmem)
    · cases hmem
  · rw [isDigit_of_mem_toDigits hmem] at hdigit
    cases hdigit

namespace Attempt

theorem toList_label (a : Attempt) : a.label.toList =
    (a.flow.toList ++ '.' :: (toString a.execution).toList) ++ '.' :: (toString a.number).toList := by
  simp [label]

theorem label_injective : Function.Injective label := by
  intro a b h
  have hchars := congrArg String.toList h
  rw [toList_label, toList_label] at hchars
  have hpoint : ∀ n : Int, '.' ∉ (toString n).toList := notMem_toString (by decide) (by decide)
  obtain ⟨hrest, hnumber⟩ := append_separator_inj (hpoint _) (hpoint _) hchars
  obtain ⟨hflow, hexecution⟩ := append_separator_inj (hpoint _) (hpoint _) hrest
  cases a
  cases b
  simp only [mk.injEq]
  exact ⟨String.toList_injective hflow, Int.repr_inj.1 (String.toList_injective hexecution),
    Int.repr_inj.1 (String.toList_injective hnumber)⟩

theorem loggerName_injective : Function.Injective loggerName := by
  intro a b h
  exact label_injective ((String.append_right_inj _).1 h)

end Attempt

/-- A directory goes in front of each name in it in the same way. -/
theorem joinPath_eq (directory name : String) :
    joinPath directory name = joinPath directory "" ++ name := by
  unfold joinPath
  split <;> simp

theorem Attempt.path_injective (directory : String) :
    Function.Injective (Attempt.path directory) := by
  intro a b h
  unfold path at h
  rw [joinPath_eq, joinPath_eq directory ("_flow." ++ b.label ++ ".log")] at h
  have hname := (String.append_left_inj _).1 ((String.append_right_inj _).1 h)
  exact label_injective ((String.append_right_inj _).1 hname)

example : Attempt.path "logs/daily" ⟨"daily.1", 17, 2⟩ = "logs/daily/_flow.daily.1.17.2.log" := by
  decide +kernel

/-! ## Names between slashes -/

/-- The names that a text has with slashes between them. -/
def namesOf (text : String) : List String :=
  text.splitToList (· == '/')

theorem namesOf_eq (text : String) :
    namesOf text = (text.toList.splitOn '/').map String.ofList := by
  rw [namesOf, String.splitToList_of_valid, List.splitOn_eq_splitOnP]

theorem namesOf_injective : Function.Injective namesOf := by
  intro s t h
  rw [namesOf_eq, namesOf_eq] at h
  have hchars := List.map_injective_iff.2 (fun _ _ => String.ofList_injective) h
  have hjoined := congrArg (List.intercalate ['/']) hchars
  rw [List.intercalate_splitOn, List.intercalate_splitOn] at hjoined
  exact String.toList_injective hjoined

theorem namesOf_slash (s t : String) : namesOf (s ++ "/" ++ t) = namesOf s ++ namesOf t := by
  rw [namesOf_eq, namesOf_eq, namesOf_eq, ← List.map_append, ← List.splitOn_append_cons_self]
  simp

theorem namesOf_of_notMem {t : String} (h : '/' ∉ t.toList) : namesOf t = [t] := by
  rw [namesOf_eq, List.splitOn_eq_singleton h]
  simp

/-- What comes after a text without a slash belongs to the last name. -/
theorem exists_namesOf_append (s : String) :
    ∃ before last, namesOf s = before ++ [last] ∧
      ∀ t : String, '/' ∉ t.toList → namesOf (s ++ t) = before ++ [last ++ t] := by
  have hone {u t : String} (hu : '/' ∉ u.toList) (ht : '/' ∉ t.toList) :
      namesOf (u ++ t) = [u ++ t] := by
    apply namesOf_of_notMem
    rw [String.toList_append, List.mem_append, not_or]
    exact ⟨hu, ht⟩
  by_cases hslash : '/' ∈ s.toList
  · -- The last slash is the first one from the end.
    obtain ⟨last, before, hreverse, hlast⟩ :=
      List.eq_append_cons_of_mem (List.mem_reverse.2 hslash)
    have hname : '/' ∉ (String.ofList last.reverse).toList := by simpa using hlast
    have hchars : s = String.ofList before.reverse ++ "/" ++ String.ofList last.reverse := by
      apply String.toList_injective
      rw [← List.reverse_reverse s.toList, hreverse]
      simp
    refine ⟨namesOf (String.ofList before.reverse), String.ofList last.reverse, ?_, ?_⟩
    · rw [hchars, namesOf_slash, namesOf_of_notMem hname]
    · intro t ht
      rw [hchars, String.append_assoc, namesOf_slash, hone hname ht]
  · exact ⟨[], s, namesOf_of_notMem hslash, fun t ht => hone hslash ht⟩

/-! ## From a path to a place -/

/-- A name that leads one step on. An empty name and a point lead nowhere, two points lead back. -/
def LeadsOn (name : String) : Prop :=
  name ≠ "" ∧ name ≠ "." ∧ name ≠ ".."

theorem enter_of_leadsOn {name : String} (h : LeadsOn name) (place : Place) :
    place.enter name = place ++ [name] := by
  obtain ⟨hempty, hpoint, hback⟩ := h
  unfold Place.enter
  rw [if_neg (by simp [hempty, hpoint]), if_neg hback]

theorem foldl_enter_of_leadsOn {names : List String} (h : ∀ name ∈ names, LeadsOn name)
    (place : Place) : names.foldl Place.enter place = place ++ names := by
  induction names generalizing place with
  | nil => simp
  | cons name names ih =>
    rw [List.foldl_cons, enter_of_leadsOn (h name List.mem_cons_self),
      ih fun other hother => h other (List.mem_cons_of_mem _ hother)]
    simp

theorem leadsOn_log (s : String) : LeadsOn (s ++ ".log") := by
  -- It ends in another character than the names that do not lead on.
  have hend : (s ++ ".log").toList.getLast? = some 'g' := by simp
  refine ⟨?_, ?_, ?_⟩ <;>
  · intro h
    rw [h] at hend
    simp at hend

/-- A name in a directory is entered from the directory. -/
theorem resolve_joinPath (fs : Files) (directory : String) {name : String}
    (h : name.toList.head? ≠ some '/') :
    fs.resolve (joinPath directory name) =
      (namesOf name).foldl Place.enter (fs.resolve directory) := by
  have hresolve (path : String) : fs.resolve path = (namesOf path).foldl Place.enter
      (if path.toList.head? = some '/' then [] else fs.here) := rfl
  have hstay (place : Place) : place.enter "" = place := if_pos (.inl rfl)
  by_cases hempty : directory = ""
  · have hjoined : joinPath directory name = name := by simp [joinPath, hempty]
    rw [hjoined, hresolve, hresolve, hempty, if_neg h]
    simp [namesOf_of_notMem, hstay]
  -- The path starts where the directory starts.
  have hhead (t : String) : (directory ++ t).toList.head? = directory.toList.head? := by
    rw [String.toList_append, List.head?_append_of_ne_nil _ (by simpa using hempty)]
  by_cases hlast : directory.toList.getLast? = some '/'
  · have hjoined : joinPath directory name = directory ++ name := by simp [joinPath, hlast]
    obtain ⟨rest, hrest⟩ := List.getLast?_eq_some_iff.1 hlast
    have hnames (t : String) :
        namesOf (directory ++ t) = namesOf (String.ofList rest) ++ namesOf t := by
      rw [← namesOf_slash]
      congr 1
      apply String.toList_injective
      simp [hrest]
    have hdirectory := hnames ""
    rw [String.append_empty, namesOf_of_notMem (t := "") (by simp)] at hdirectory
    rw [hjoined, hresolve, hresolve, hhead, hnames, hdirectory, List.foldl_append,
      List.foldl_append, List.foldl_cons, List.foldl_nil, hstay]
  · have hjoined : joinPath directory name = directory ++ ("/" ++ name) := by
      simp [joinPath, hempty, hlast, String.append_assoc]
    rw [hjoined, hresolve, hresolve, hhead, ← String.append_assoc, namesOf_slash, List.foldl_append]

namespace Attempt

variable {fs : Files} {directory : String} {a b : Attempt}

/-- Where the log of an attempt lies. -/
def place (fs : Files) (directory : String) (a : Attempt) : Place :=
  fs.resolve (a.path directory)

/-- The names that the flow puts on the way to the log. -/
def names (a : Attempt) : List String :=
  namesOf ("_flow." ++ a.flow)

/-- The place that all names but the last lead to. -/
def folder (fs : Files) (directory : String) (a : Attempt) : Place :=
  a.names.dropLast.foldl Place.enter (fs.resolve directory)

/-- The last of the names. -/
def stem (a : Attempt) : String :=
  a.names.getLastD ""

theorem names_eq (a : Attempt) : a.names = a.names.dropLast ++ [a.stem] := by
  obtain ⟨before, last, hnames, -⟩ := exists_namesOf_append ("_flow." ++ a.flow)
  unfold stem names
  rw [hnames]
  simp

/-- The flow says where a log lies, and the last of its names is followed by the numbers. -/
theorem place_eq (fs : Files) (directory : String) (a : Attempt) :
    a.place fs directory =
      a.folder fs directory ++ [({ a with flow := a.stem } : Attempt).label ++ ".log"] := by
  obtain ⟨before, last, hnames, happend⟩ := exists_namesOf_append ("_flow." ++ a.flow)
  have hstem : a.stem = last := by simp [stem, names, hnames]
  have hfolder : a.folder fs directory = before.foldl Place.enter (fs.resolve directory) := by
    simp [folder, names, hnames]
  have hfile : "_flow." ++ a.label ++ ".log" = "_flow." ++ a.flow ++
      ("." ++ toString a.execution ++ "." ++ toString a.number ++ ".log") := by
    simp [label, String.append_assoc]
  have hslash : ∀ n : Int, '/' ∉ n.repr.toList := notMem_toString (by decide) (by decide)
  have hnumbers :
      '/' ∉ ("." ++ toString a.execution ++ "." ++ toString a.number ++ ".log").toList := by
    simp [hslash]
  have hlast : last ++ ("." ++ toString a.execution ++ "." ++ toString a.number ++ ".log") =
      ({ a with flow := a.stem } : Attempt).label ++ ".log" := by
    simp [label, hstem, String.append_assoc]
  unfold place path
  rw [resolve_joinPath fs directory (by simp), hfile, happend _ hnumbers, hlast, hfolder,
    List.foldl_append, List.foldl_cons, List.foldl_nil, enter_of_leadsOn (leadsOn_log _)]

/-- Two logs lie at one place just if the numbers are the same, and the flows lead to the same. -/
theorem place_eq_iff : a.place fs directory = b.place fs directory ↔
    a.folder fs directory = b.folder fs directory ∧ a.stem = b.stem ∧
      a.execution = b.execution ∧ a.number = b.number := by
  rw [place_eq, place_eq]
  constructor
  · intro h
    obtain ⟨hfolder, hname⟩ := List.append_inj' h rfl
    have hlabel := label_injective ((String.append_left_inj _).1 (List.singleton_inj.1 hname))
    rw [mk.injEq] at hlabel
    exact ⟨hfolder, hlabel⟩
  · rintro ⟨hfolder, hstem, hexecution, hnumber⟩
    rw [hfolder, hstem, hexecution, hnumber]

/-- All names but the last lead on. -/
def Straight (a : Attempt) : Prop :=
  ∀ name ∈ a.names.dropLast, LeadsOn name

theorem straight_of_notMem (h : '/' ∉ a.flow.toList) : a.Straight := by
  have hnames : a.names = ["_flow." ++ a.flow] := namesOf_of_notMem (by simpa using h)
  unfold Straight
  rw [hnames]
  simp

/-- Where the flows lead straight on, no two attempts have their logs at one place. -/
theorem eq_of_place_eq (ha : a.Straight) (hb : b.Straight)
    (h : a.place fs directory = b.place fs directory) : a = b := by
  obtain ⟨hfolder, hstem, hexecution, hnumber⟩ := place_eq_iff.1 h
  unfold folder at hfolder
  rw [foldl_enter_of_leadsOn ha, foldl_enter_of_leadsOn hb] at hfolder
  have hnames : a.names = b.names := by
    rw [names_eq a, names_eq b, List.append_cancel_left hfolder, hstem]
  have hflow := (String.append_right_inj _).1 (namesOf_injective hnames)
  cases a
  cases b
  simp only [mk.injEq]
  exact ⟨hflow, hexecution, hnumber⟩

/-- The attempt of the same numbers whose flow enters a directory and leaves it again, to go on with
the name of the log. -/
def detour (a : Attempt) : Attempt :=
  { a with flow := "aside/../_flow." ++ a.flow }

theorem detour_ne (a : Attempt) : a.detour ≠ a := by
  intro h
  have hlength := congrArg (fun b : Attempt => b.flow.toList.length) h
  simp only [detour, String.toList_append, List.length_append] at hlength
  have hlong : "aside/../_flow.".toList.length = 15 := rfl
  omega

theorem detour_names (a : Attempt) :
    a.detour.names = ("_flow.aside" :: ".." :: a.names.dropLast) ++ [a.stem] := by
  have hflow : "_flow." ++ a.detour.flow =
      "_flow.aside" ++ "/" ++ (".." ++ "/" ++ ("_flow." ++ a.flow)) := by
    apply String.toList_injective
    simp [detour]
  rw [List.cons_append, List.cons_append, ← names_eq]
  unfold names
  rw [hflow, namesOf_slash, namesOf_slash, namesOf_of_notMem (by decide),
    namesOf_of_notMem (by decide)]
  rfl

/-- No log is so placed that no other flow leads to it. -/
theorem detour_place (fs : Files) (directory : String) (a : Attempt) :
    a.detour.place fs directory = a.place fs directory := by
  have hreturn (place : Place) : (place.enter "_flow.aside").enter ".." = place := by
    simp [Place.enter]
  rw [place_eq_iff]
  refine ⟨?_, ?_, rfl, rfl⟩
  · unfold folder
    rw [detour_names, List.dropLast_concat, List.foldl_cons, List.foldl_cons, hreturn]
  · rw [stem, detour_names, List.getLastD_concat]

end Attempt

end FlowWarden.Log
