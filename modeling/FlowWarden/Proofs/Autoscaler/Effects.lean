import FlowWarden.Proofs.Autoscaler.Launches
import FlowWarden.Proofs.Keyed
/-!
# What a recommendation changes

A recommendation reads one object of the cluster and creates it if there is nothing. `Effects` says
what one recommendation asks and what it leaves behind, whatever the cluster answers;
`recommend_effects` adds what follows for recommendations among other changes to the cluster: no
object is ever overwritten by a recommendation, and between two creations of one object somebody
else has removed it.
-/

namespace FlowWarden

/-- The part of a document under one text key after another. -/
def Document.at? : List String → Document → Option Document
  | [], d => some d
  | key :: keys, d => (d.get? key).bind (Document.at? keys)

namespace Autoscaler

open Cluster (Failure)

/-! ## The two requests -/

namespace Store

variable {s s' : Store} {space name : String}

/-- A read finds nothing: the cluster answers so, or there is nothing but null. -/
def findsNothing (s : Store) (key : String) : Bool :=
  match s.getFault with
  | some f => f.hasStatus Cluster.notFound
  | none => !s.holds key

theorem holds_eq_false {key : String} (h : s.find? key = none ∨ s.find? key = some .null) :
    s.holds key = false := by
  rcases h with h | h <;> simp [holds, h]

theorem holds_congr {key : String} (h : s'.find? key = s.find? key) :
    s'.holds key = s.holds key := by
  simp only [holds, h]

/-- A read leaves the objects alone, whatever it finds. -/
theorem read_world (space name : String) (s : Store) :
    (s.read space name).2 = s.noteCall (.get space name) := rfl

theorem read_eq_none_iff :
    (s.read space name).1 = .ok none ↔ s.findsNothing (key space name) = true := by
  simp only [read, answerGet, findsNothing]
  cases hf : s.getFault with
  | some f => by_cases h : f.hasStatus Cluster.notFound = true <;> simp [h]
  | none =>
    cases ho : s.find? (key space name) with
    | none => simp [holds, ho, Failure.hasStatus]
    | some object => cases object <;> simp [holds, ho]

theorem answerCreate_eq_ok {u : Store} {body : Document} :
    s.answerCreate space name body = .ok u ↔
      s.createFault = none ∧ s.holds (key space name) = false ∧ u = s.put (key space name) body := by
  unfold answerCreate
  cases s.createFault with
  | some f => simp
  | none => cases s.holds (key space name) <;> simp [eq_comm]

/-- A creation puts the object where there was none, or leaves the objects alone. -/
theorem createAs_cases (space name : String) (body : Document) (s : Store) :
    ∃ answer u, s.createAs space name body = (answer, u) ∧
      u.calls = s.calls ++ [.create space body] ∧
      ((answer = .ok () ∧ s.holds (key space name) = false ∧
          u.objects = Keyed.insert (key space name) body s.objects) ∨
        (answer ≠ .ok () ∧ u.objects = s.objects)) := by
  unfold createAs
  dsimp only
  cases ha : (s.noteCall (.create space body)).answerCreate space name body with
  | ok u =>
    obtain ⟨-, hfree, rfl⟩ := answerCreate_eq_ok.1 ha
    exact ⟨_, _, rfl, rfl, .inl ⟨rfl, hfree, rfl⟩⟩
  | error f =>
    dsimp only
    split
    · exact ⟨_, _, rfl, rfl, .inr ⟨by simp, rfl⟩⟩
    · exact ⟨_, _, rfl, rfl, .inr ⟨by simp, rfl⟩⟩

/-- Only the log has changed. -/
def Said (s s' : Store) : Prop :=
  ∃ log, s' = { s with log }

end Store

namespace Request

variable (r : Request) (s : Store)

/-! ## The stages of a recommendation -/

theorem fromTargets_said (limits : Decimal × Decimal) (cpu memory : String) :
    s.Said (r.fromTargets limits cpu memory s).2 := by
  unfold fromTargets
  cases r.scaledTargets cpu memory with
  | error p => exact ⟨_, rfl⟩
  | ok amounts => exact ⟨_, rfl⟩

theorem fromObject_said (limits : Decimal × Decimal) (object : Document) :
    s.Said (r.fromObject limits object s).2 := by
  unfold fromObject
  rcases r.targets object with (n | m) | ⟨cpu, memory⟩
  · dsimp only
    cases r.policy with
    | fail => exact ⟨_, rfl⟩
    | useMaximum => exact ⟨_, rfl⟩
  · exact ⟨_, rfl⟩
  · exact r.fromTargets_said s limits cpu memory

/-- The creation of a first launch asks once, and changes the objects only if it succeeds. -/
theorem fromCreation_cases : ∃ outcome u, r.fromCreation s = (outcome, u) ∧
    u.calls = s.calls ++ [.create r.space r.blueprint.manifest] ∧
    (((s.createAs r.space r.name r.blueprint.manifest).1 = .ok () ∧ outcome = .ok r.maximum ∧
        s.holds r.key = false ∧ u.objects = Keyed.insert r.key r.blueprint.manifest s.objects) ∨
      ((s.createAs r.space r.name r.blueprint.manifest).1 ≠ .ok () ∧ u.objects = s.objects)) := by
  obtain ⟨answer, u, hc, hcalls, hobjects⟩ := s.createAs_cases r.space r.name r.blueprint.manifest
  unfold fromCreation
  rw [hc]
  rcases hobjects with ⟨rfl, hfree, hput⟩ | ⟨hne, hsame⟩
  · exact ⟨_, _, rfl, hcalls, .inl ⟨rfl, rfl, hfree, hput⟩⟩
  · cases answer with
    | ok => exact absurd rfl hne
    | error f =>
      cases f with
      | alreadyExists text => exact ⟨_, _, rfl, hcalls, .inr ⟨hne, hsame⟩⟩
      | status code reason => exact ⟨_, _, rfl, hcalls, .inr ⟨hne, hsame⟩⟩
      | other text => exact ⟨_, _, rfl, hcalls, .inr ⟨hne, hsame⟩⟩

/-- The recommendation comes to a creation, and the cluster carries it out. -/
def Creates : Prop :=
  ∃ u, r.advance r.start s = (.creating, u) ∧
    (u.createAs r.space r.name r.blueprint.manifest).1 = .ok ()

/-! ## What one recommendation asks and changes -/

/-- What a first launch leaves behind. -/
structure Launched (result : Recommendation) (s' : Store) : Prop where
  absent : s.find? r.key = none ∨ s.find? r.key = some .null
  stored : s'.find? r.key = some r.blueprint.manifest
  others : ∀ key, key ≠ r.key → s'.find? key = s.find? key
  result : result = ⟨r.maxCpu, r.maxMemory, .maximum⟩

/-- The parts of the object of a new autoscaler. -/
structure Passive (object : Document) : Prop where
  name : object.at? ["metadata", "name"] = some (.text r.name)
  selector : object.at? ["spec", "selector", "matchLabels"] =
    some (.record [(r.labelName, .text r.name)])
  updateMode : object.at? ["spec", "updatePolicy", "updateMode"] = some (.text "Off")
  policies : object.at? ["spec", "resourcePolicy", "containerPolicies"] =
    some (.list [.record [("containerName", .text r.container),
      ("maxAllowed", .record [("cpu", r.maxCpu), ("memory", r.maxMemory)])]])

/-- What the recommendation `r` asks of the cluster `s`, and the cluster `s'` that it leaves. -/
structure Effects (outcome : Outcome) (s' : Store) : Prop where
  unasked : ∀ p, r.maxSizes = .error p → outcome = .error p ∧ s' = s
  /-- There is one read, and one creation if that finds nothing. -/
  calls : ∀ limits, r.maxSizes = .ok limits → s'.calls = s.calls ++ .get r.space r.name ::
    (if s.findsNothing r.key then [.create r.space r.blueprint.manifest] else [])
  manifest : r.Passive r.blueprint.manifest
  failed : ∀ p, outcome = .error p → s'.objects = s.objects
  returned : ∀ result, outcome = .ok result → s'.objects = s.objects ∨ r.Launched s result s'
  /-- The objects change with a creation that succeeds, and only then. -/
  created : r.Creates s ↔ s'.objects ≠ s.objects

/-- A recommendation ends before its first request, comes to a creation, or goes by what it
reads. -/
theorem recommend_cases :
    (∃ p, r.maxSizes = .error p ∧ r.recommend s = (.error p, s) ∧ ¬ r.Creates s) ∨
      ∃ limits, r.maxSizes = .ok limits ∧
        ((s.findsNothing r.key = true ∧
            r.recommend s = r.fromCreation (s.noteCall (.get r.space r.name)) ∧
            (r.Creates s ↔ ((s.noteCall (.get r.space r.name)).createAs r.space r.name
              r.blueprint.manifest).1 = .ok ())) ∨
          (s.findsNothing r.key = false ∧ ¬ r.Creates s ∧
            (s.noteCall (.get r.space r.name)).Said (r.recommend s).2)) := by
  cases hm : r.maxSizes with
  | error p =>
    have hstart : r.start = .done (.error p) := by rw [start, hm]
    refine .inl ⟨p, rfl, ?_, ?_⟩
    · rw [recommend, hstart]
    · rintro ⟨u, hu, -⟩
      rw [hstart] at hu
      cases hu
  | ok limits =>
    have hstart : r.start = .reading limits := by rw [start, hm]
    have hread := s.read_world r.space r.name
    have hnone : (s.read r.space r.name).1 = .ok none ↔
        s.findsNothing (Store.key r.space r.name) = true := s.read_eq_none_iff
    refine .inr ⟨limits, rfl, ?_⟩
    unfold recommend Creates
    rw [hstart]
    dsimp only [advance]
    rcases hanswer : s.read r.space r.name with ⟨answer, u⟩
    rw [hanswer] at hread hnone
    obtain rfl : u = s.noteCall (.get r.space r.name) := hread
    rcases answer with f | _ | object
    · refine .inr ⟨?_, by simp, ⟨_, rfl⟩⟩
      rw [← Bool.not_eq_true, key, ← hnone]
      simp
    · refine .inl ⟨hnone.1 rfl, rfl, ?_⟩
      simp
    · refine .inr ⟨?_, by simp, r.fromObject_said _ limits object⟩
      rw [← Bool.not_eq_true, key, ← hnone]
      simp

theorem passive_manifest : r.Passive r.blueprint.manifest :=
  ⟨rfl, rfl, rfl, rfl⟩

/-- What has been inserted over nothing is something else than before. -/
theorem insert_ne (h : s.holds r.key = false) :
    Keyed.insert r.key r.blueprint.manifest s.objects ≠ s.objects := by
  intro heq
  have hfind : s.find? r.key = some r.blueprint.manifest := by
    rw [Store.find?, ← heq, Keyed.find?_insert, if_pos rfl]
  rw [Store.holds_of_find? hfind r.blueprint.manifest_ne_null] at h
  cases h

/-- Where nothing is there and nothing goes wrong, a recommendation creates the object. -/
theorem creates_of_free {r : Request} {s : Store} {limits : Decimal × Decimal}
    (hm : r.maxSizes = .ok limits) (hget : s.getFault = none) (hcreate : s.createFault = none)
    (hfree : s.holds r.key = false) : r.Creates s := by
  have hstart : r.start = .reading limits := by rw [start, hm]
  obtain ⟨u, hu, -⟩ := createAs_won (s := s.noteCall (.get r.space r.name)) hcreate hfree
    r.blueprint.manifest
  refine ⟨_, ?_, congrArg Prod.fst hu⟩
  rw [hstart]
  dsimp only [advance]
  rw [read_absent hget hfree]

theorem effects_of_error {p : Problem} (hm : r.maxSizes = .error p) (hnot : ¬ r.Creates s) :
    r.Effects s (.error p) s where
  unasked := by
    intro p' hp'
    rw [hm] at hp'
    cases hp'
    exact ⟨rfl, rfl⟩
  calls := by
    intro limits hlimits
    rw [hm] at hlimits
    cases hlimits
  manifest := r.passive_manifest
  failed := fun _ _ => rfl
  returned := fun _ _ => .inl rfl
  created := iff_of_false hnot (fun h => h rfl)

section

variable {r s} {limits : Decimal × Decimal}

/-- A recommendation that goes by what it reads adds to the log. -/
theorem effects_of_said {outcome : Outcome} {s' : Store} (hm : r.maxSizes = .ok limits)
    (hsomething : s.findsNothing r.key = false) (hnot : ¬ r.Creates s)
    (hsaid : (s.noteCall (.get r.space r.name)).Said s') : r.Effects s outcome s' := by
  obtain ⟨log, rfl⟩ := hsaid
  refine ⟨?_, ?_, r.passive_manifest, fun _ _ => rfl, fun _ _ => .inl rfl, ?_⟩
  · intro p hp
    rw [hm] at hp
    cases hp
  · intro _ _
    rw [hsomething]
    rfl
  · exact iff_of_false hnot (fun h => h rfl)

theorem effects_of_creation {outcome : Outcome} {s' : Store} (hm : r.maxSizes = .ok limits)
    (hnothing : s.findsNothing r.key = true)
    (heq : r.fromCreation (s.noteCall (.get r.space r.name)) = (outcome, s'))
    (hcreates : r.Creates s ↔ ((s.noteCall (.get r.space r.name)).createAs r.space r.name
      r.blueprint.manifest).1 = .ok ()) :
    r.Effects s outcome s' := by
  obtain ⟨_, _, heq', hcalls, hcases⟩ := r.fromCreation_cases (s.noteCall (.get r.space r.name))
  obtain ⟨rfl, rfl⟩ := Prod.mk.inj (heq'.symm.trans heq)
  refine ⟨?_, ?_, r.passive_manifest, ?_, ?_, ?_⟩
  · intro p hp
    rw [hm] at hp
    cases hp
  · intro _ _
    rw [hnothing, if_pos rfl]
    simpa [Store.noteCall] using hcalls
  · intro p hp
    rcases hcases with ⟨-, hok, -⟩ | ⟨-, hsame⟩
    · rw [hok] at hp
      cases hp
    · exact hsame
  · intro result hresult
    rcases hcases with ⟨-, hok, hfree, hput⟩ | ⟨-, hsame⟩
    · rw [hok] at hresult
      cases hresult
      refine .inr ⟨Store.find?_of_holds hfree, ?_, ?_, rfl⟩
      · rw [Store.find?, hput, Keyed.find?_insert, if_pos rfl]
      · intro key hkey
        rw [Store.find?, hput, Keyed.find?_insert, if_neg (Ne.symm hkey)]
        rfl
    · exact .inl hsame
  · rw [hcreates]
    rcases hcases with ⟨hwon, -, hfree, hput⟩ | ⟨hlost, hsame⟩
    · refine iff_of_true hwon ?_
      rw [hput]
      exact r.insert_ne s hfree
    · exact iff_of_false hlost (fun h => h hsame)

end

theorem effects : r.Effects s (r.recommend s).1 (r.recommend s).2 := by
  rcases r.recommend_cases s with ⟨p, hm, heq, hnot⟩ |
    ⟨limits, hm, ⟨hnothing, heq, hcreates⟩ | ⟨hsomething, hnot, hsaid⟩⟩
  · rw [heq]
    exact r.effects_of_error s hm hnot
  · exact effects_of_creation hm hnothing heq.symm hcreates
  · exact effects_of_said hm hsomething hnot hsaid

end Request

/-! ## Recommendations among other changes -/

/-- What can happen to a cluster: a recommendation or a read while it shows some faults, or a change
that somebody else makes. -/
inductive Action
  | recommend (r : Request) (getFault createFault : Option Failure)
  | get (space name : String) (getFault : Option Failure)
  | put (key : String) (object : Document)
  | setStatus (key : String) (status : Document)
  | delete (key : String)

/-- Somebody takes away the object under a key. -/
def Action.Removes (key : String) (a : Action) : Prop :=
  a = .delete key ∨ a = .put key .null

namespace Store

variable {s : Store} {key : String} {a : Action}

/-- Sets the status of an object, if there is one. -/
def setStatus (s : Store) (key : String) (status : Document) : Store :=
  match s.find? key with
  | some (.map entries) => s.put key (.map (Document.setField "status" status entries))
  | _ => s

def showing (s : Store) (getFault createFault : Option Failure) : Store :=
  { s with getFault, createFault }

def after (s : Store) : Action → Store
  | .recommend r getFault createFault => (r.recommend (s.showing getFault createFault)).2
  | .get space name getFault => (read space name { s with getFault }).2
  | .put key object => s.put key object
  | .setStatus key status => s.setStatus key status
  | .delete key => s.erase key

def afterAll (s : Store) (actions : List Action) : Store :=
  actions.foldl after s

/-- A recommendation creates the object under a key. -/
def Creates (s : Store) (key : String) : Action → Prop
  | .recommend r getFault createFault => r.key = key ∧ r.Creates (s.showing getFault createFault)
  | _ => False

theorem afterAll_append (s : Store) (as bs : List Action) :
    s.afterAll (as ++ bs) = (s.afterAll as).afterAll bs :=
  List.foldl_append

theorem find?_put (s : Store) (key key' : String) (object : Document) :
    (s.put key object).find? key' = if key = key' then some object else s.find? key' :=
  Keyed.find?_insert ..

theorem find?_erase (s : Store) (key key' : String) :
    (s.erase key).find? key' = if key = key' then none else s.find? key' :=
  Keyed.find?_filter_ne ..

/-- A recommendation does not touch what is there. -/
theorem find?_after_recommend (r : Request) (getFault createFault : Option Failure)
    (h : s.holds key = true) :
    (s.after (.recommend r getFault createFault)).find? key = s.find? key := by
  have heffects := r.effects (s.showing getFault createFault)
  cases houtcome : (r.recommend (s.showing getFault createFault)).1 with
  | error p =>
    have hsame := heffects.failed p houtcome
    rw [find?, after, hsame]
    rfl
  | ok result =>
    rcases heffects.returned result houtcome with hsame | hlaunched
    · rw [find?, after, hsame]
      rfl
    · apply hlaunched.others
      rintro rfl
      have hfree : s.holds r.key = false := holds_eq_false hlaunched.absent
      rw [hfree] at h
      cases h

theorem holds_put_self {object : Document} (h : object ≠ .null) :
    (s.put key object).holds key = true :=
  holds_of_find? (by rw [find?_put, if_pos rfl]) h

theorem holds_put_of_ne {k : String} {object : Document} (hk : k ≠ key) :
    (s.put k object).holds key = s.holds key :=
  holds_congr (by rw [find?_put, if_neg hk])

theorem holds_setStatus (k : String) (status : Document) (h : s.holds key = true) :
    (s.setStatus k status).holds key = true := by
  unfold setStatus
  split
  · by_cases hk : k = key
    · subst hk
      exact holds_put_self (by simp)
    · rw [holds_put_of_ne hk]
      exact h
  · exact h

/-- What is there stays there until somebody takes it away. -/
theorem holds_after (h : s.holds key = true) (hkeep : ¬ a.Removes key) :
    (s.after a).holds key = true := by
  cases a with
  | recommend r getFault createFault =>
    rw [holds_congr (find?_after_recommend r getFault createFault h)]
    exact h
  | get => exact h
  | put k object =>
    by_cases hk : k = key
    · subst hk
      apply holds_put_self
      rintro rfl
      exact hkeep (.inr rfl)
    · rw [after, holds_put_of_ne hk]
      exact h
  | setStatus k status => exact holds_setStatus k status h
  | delete k =>
    have hk : k ≠ key := by
      rintro rfl
      exact hkeep (.inl rfl)
    have hfind : (s.erase k).find? key = s.find? key := by rw [find?_erase, if_neg hk]
    rw [after, holds_congr hfind]
    exact h

/-- Where something was and is no more, somebody has taken it away. -/
theorem removed_of_holds {actions : List Action} (h : s.holds key = true)
    (hgone : (s.afterAll actions).holds key = false) :
    ∃ pre e post, actions = pre ++ e :: post ∧ e.Removes key ∧ (s.afterAll pre).holds key = true ∧
      (s.afterAll (pre ++ [e])).holds key = false := by
  induction actions generalizing s with
  | nil =>
    rw [afterAll, List.foldl_nil, h] at hgone
    cases hgone
  | cons a actions ih =>
    cases hnext : (s.after a).holds key with
    | true =>
      obtain ⟨pre, e, post, rfl, he, hbefore, hafter⟩ := ih hnext hgone
      exact ⟨a :: pre, e, post, rfl, he, hbefore, hafter⟩
    | false =>
      refine ⟨[], a, actions, rfl, ?_, h, hnext⟩
      by_contra hkeep
      rw [holds_after h hkeep] at hnext
      cases hnext

/-- A creation fills a key that was empty. -/
theorem Creates.holds (h : s.Creates key a) :
    s.holds key = false ∧ (s.after a).holds key = true := by
  cases a with
  | recommend r getFault createFault =>
    obtain ⟨rfl, hcreates⟩ := h
    have heffects := r.effects (s.showing getFault createFault)
    have hchanged := heffects.created.1 hcreates
    cases houtcome : (r.recommend (s.showing getFault createFault)).1 with
    | error p => exact absurd (heffects.failed p houtcome) hchanged
    | ok result =>
      rcases heffects.returned result houtcome with hsame | hlaunched
      · exact absurd hsame hchanged
      · exact ⟨holds_eq_false hlaunched.absent,
          holds_of_find? hlaunched.stored r.blueprint.manifest_ne_null⟩
  | get | put | setStatus | delete => exact h.elim

/-- What holds of any actions on a cluster, one after another. -/
structure History (s : Store) : Prop where
  effects : ∀ actions (r : Request) getFault createFault, r.Effects
    ((s.afterAll actions).showing getFault createFault)
    (r.recommend ((s.afterAll actions).showing getFault createFault)).1
    (s.afterAll (actions ++ [.recommend r getFault createFault]))
  /-- A recommendation never alters an object. -/
  kept : ∀ actions r getFault createFault key, (s.afterAll actions).holds key = true →
    (s.afterAll (actions ++ [.recommend r getFault createFault])).find? key =
      (s.afterAll actions).find? key
  /-- Between two creations of one object somebody has taken it away. -/
  separated : ∀ pre a mid b key, (s.afterAll pre).Creates key a →
    (s.afterAll (pre ++ a :: mid)).Creates key b →
    ∃ before e rest, mid = before ++ e :: rest ∧ e.Removes key ∧
      (s.afterAll (pre ++ a :: before)).holds key = true ∧
      (s.afterAll (pre ++ a :: (before ++ [e]))).holds key = false

theorem history (s : Store) : s.History where
  effects := by
    intro actions r getFault createFault
    rw [afterAll_append]
    exact r.effects _
  kept := by
    intro actions r getFault createFault key h
    rw [afterAll_append]
    exact find?_after_recommend r getFault createFault h
  separated := by
    intro pre a mid b key ha hb
    have hcons (as : List Action) :
        s.afterAll (pre ++ a :: as) = ((s.afterAll pre).after a).afterAll as := by
      rw [afterAll_append]
      rfl
    rw [hcons] at hb
    obtain ⟨before, e, rest, hmid, he, hbefore, hafter⟩ := removed_of_holds ha.holds.2 hb.holds.1
    refine ⟨before, e, rest, hmid, he, ?_, ?_⟩
    · rw [hcons]
      exact hbefore
    · rw [hcons]
      exact hafter

end Store

/-- Whatever the cluster holds and answers, a recommendation reads one object, creates it only where
it reads nothing, and changes nothing else; over any history no object is overwritten, and none is
created twice unless somebody takes it away in between. -/
theorem recommend_effects (s : Store) :
    (∀ r : Request, r.Effects s (r.recommend s).1 (r.recommend s).2) ∧ s.History :=
  ⟨fun r => r.effects s, s.history⟩

/-- The first launch creates the autoscaler, it is deleted, and the next launch creates it again. -/
theorem headroom_recreated :
    let launch := Action.recommend .headroom none none
    let s : Store := { objects := [("default/daily", .null)] }
    s.Creates "default/daily" launch ∧
      (s.afterAll [launch, .delete "default/daily"]).Creates "default/daily" launch ∧
      ∃ before e rest, [Action.delete "default/daily"] = before ++ e :: rest ∧
        e.Removes "default/daily" := by
  intro launch s
  have hfirst : s.Creates "default/daily" launch :=
    ⟨rfl, Request.creates_of_free Request.headroom_maxSizes rfl rfl rfl⟩
  have hsecond : (s.afterAll [launch, .delete "default/daily"]).Creates "default/daily" launch := by
    refine ⟨rfl, Request.creates_of_free Request.headroom_maxSizes rfl rfl ?_⟩
    apply Store.holds_eq_false
    left
    exact (Store.find?_erase (s.after launch) "default/daily" "default/daily").trans (if_pos rfl)
  obtain ⟨before, e, rest, hmid, he, -, -⟩ :=
    (recommend_effects s).2.separated [] launch [.delete "default/daily"] launch _ hfirst hsecond
  exact ⟨hfirst, hsecond, before, e, rest, hmid, he⟩

end Autoscaler
end FlowWarden
