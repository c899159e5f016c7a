import FlowWarden.Cluster.Container
import FlowWarden.Proofs.Keyed
import FlowWarden.Proofs.Quantity.Canonical
/-!
# Deleting containers

A call to delete a container deals with the pod and the service of one name, and with nothing else.
`deletions_confined` says when such a call fails, what it asks the cluster and what it leaves
behind, after any number of earlier calls. A call that went well can be repeated and changes
nothing, a call goes as it would have gone before all others, and the resources do not tell in which
order the calls were made.
-/

namespace FlowWarden.Cluster

/-! ## One resource -/

section

variable {name other : String} {rs : List (String × Presence)}

/-- A resource is not there any more: the cluster knows none, or answers that there is none. -/
def Gone (name : String) (rs : List (String × Presence)) : Prop :=
  Keyed.find? name rs = none ∨
    ∃ f, Keyed.find? name rs = some (.failing f) ∧ f.hasStatus notFound = true

/-- Why the cluster does not delete a resource. That there is none is no reason. -/
def refusal? (name : String) (rs : List (String × Presence)) : Option Failure :=
  match Keyed.find? name rs with
  | some (.failing f) => if f.hasStatus notFound then none else some f
  | _ => none

/-- The resources once one of them is to be deleted. -/
def released (name : String) (rs : List (String × Presence)) : List (String × Presence) :=
  if Keyed.find? name rs = some .present then rs.filter fun p => p.1 != name else rs

theorem gone_iff :
    Gone name rs ↔ Keyed.find? name rs ≠ some .present ∧ refusal? name rs = none := by
  unfold Gone refusal?
  cases hfind : Keyed.find? name rs with
  | none => simp
  | some p => cases p <;> simp

theorem released_of_not_present (h : Keyed.find? name rs ≠ some .present) :
    released name rs = rs :=
  if_neg h

theorem find?_released (name other : String) (rs : List (String × Presence)) :
    Keyed.find? other (released name rs) =
      if name = other ∧ Keyed.find? name rs = some .present then none
      else Keyed.find? other rs := by
  unfold released
  by_cases hpresent : Keyed.find? name rs = some .present
  · rw [if_pos hpresent, Keyed.find?_filter_ne]
    simp [hpresent]
  · rw [if_neg hpresent, if_neg fun h => hpresent h.2]

theorem find?_released_of_ne (h : other ≠ name) :
    Keyed.find? other (released name rs) = Keyed.find? other rs := by
  rw [find?_released, if_neg fun hboth => h hboth.1.symm]

/-- What is to be deleted is not there afterwards, unless it never was. -/
theorem not_present_released (name : String) (rs : List (String × Presence)) :
    Keyed.find? name (released name rs) ≠ some .present := by
  rw [find?_released]
  by_cases h : Keyed.find? name rs = some .present <;> simp [h]

/-- Deleting resources does not change what the cluster refuses. -/
theorem refusal?_released (name other : String) (rs : List (String × Presence)) :
    refusal? other (released name rs) = refusal? other rs := by
  unfold refusal?
  rw [find?_released]
  by_cases h : name = other ∧ Keyed.find? name rs = some .present
  · obtain ⟨rfl, hpresent⟩ := h
    simp [hpresent]
  · rw [if_neg h]

theorem released_comm (name other : String) (rs : List (String × Presence)) :
    released name (released other rs) = released other (released name rs) := by
  by_cases h : name = other
  · rw [h]
  · have hname : Keyed.find? name (released other rs) = Keyed.find? name rs :=
      find?_released_of_ne h
    have hother : Keyed.find? other (released name rs) = Keyed.find? other rs :=
      find?_released_of_ne (Ne.symm h)
    rw [released, hname, released, released, hother, released]
    by_cases hn : Keyed.find? name rs = some .present <;>
      by_cases ho : Keyed.find? other rs = some .present <;>
        simp [hn, ho, List.filter_filter, Bool.and_comm]

end

namespace Containers

/-! ## One call -/

variable {c : Containers} {id : Int}

theorem resources_pod (c : Containers) : c.resources .pod = c.pods := rfl

theorem resources_service (c : Containers) : c.resources .service = c.services := rfl

/-- How requests end that are refused for a reason, or for none. -/
def ending : Option Failure → Except Failure Unit
  | none => .ok ()
  | some f => .error f

theorem ending_eq_error_iff {reason : Option Failure} {f : Failure} :
    ending reason = .error f ↔ reason = some f := by
  cases reason <;> simp [ending]

theorem ending_eq_ok_iff {reason : Option Failure} : ending reason = .ok () ↔ reason = none := by
  cases reason <;> simp [ending]

/-- The containers `c'` are those of `c` after the requests `asked` about the resources of one
name. -/
structure Asked (c : Containers) (name : String) (asked : List Resource) (c' : Containers) :
    Prop where
  resources : ∀ r, c'.resources r =
    if r ∈ asked then released name (c.resources r) else c.resources r
  calls : c'.calls = c.calls ++ asked.map fun r => (r, name, c.space)
  space : c'.space = c.space
  podPrefix : c'.podPrefix = c.podPrefix
  deleteService : c'.deleteService = c.deleteService

theorem resources_noted (c : Containers) (calls : List (Resource × String × String))
    (r : Resource) : Containers.resources { c with calls } r = c.resources r := by
  cases r <;> rfl

theorem resources_say (c : Containers) (message : String) (r : Resource) :
    (c.say message).resources r = c.resources r := by
  cases r <;> rfl

theorem resources_setResources (c : Containers) (r r' : Resource)
    (rs : List (String × Presence)) :
    (c.setResources r rs).resources r' = if r' = r then rs else c.resources r' := by
  cases r <;> cases r' <;> rfl

theorem setResources_frame (c : Containers) (r : Resource) (rs : List (String × Presence)) :
    (c.setResources r rs).calls = c.calls ∧ (c.setResources r rs).space = c.space ∧
      (c.setResources r rs).podPrefix = c.podPrefix ∧
      (c.setResources r rs).deleteService = c.deleteService := by
  cases r <;> exact ⟨rfl, rfl, rfl, rfl⟩

/-- A request that finds nothing to delete is noted, and that is all. -/
theorem asked_of_not_present {r : Resource} {name : String}
    (h : Keyed.find? name (c.resources r) ≠ some .present) :
    Asked c name [r] { c with calls := c.calls ++ [(r, name, c.space)] } where
  resources r' := by
    rw [resources_noted]
    by_cases hr : r' = r
    · rw [if_pos (by simp [hr]), hr, released_of_not_present h]
    · rw [if_neg (by simp [hr])]
  calls := rfl
  space := rfl
  podPrefix := rfl
  deleteService := rfl

theorem Asked.say {name message : String} {asked : List Resource} {c' : Containers}
    (h : Asked c name asked c') : Asked c name asked (c'.say message) where
  resources r := (resources_say c' message r).trans (h.resources r)
  calls := h.calls
  space := h.space
  podPrefix := h.podPrefix
  deleteService := h.deleteService

theorem deleteResource_asked (c : Containers) (r : Resource) (name : String) :
    ∃ c', c.deleteResource r name = (ending (refusal? name (c.resources r)), c') ∧
      Asked c name [r] c' := by
  unfold deleteResource answerDelete
  dsimp only
  rw [resources_noted]
  cases hfind : Keyed.find? name (c.resources r) with
  | none =>
    have hallowed : refusal? name (c.resources r) = none := by simp [refusal?, hfind]
    rw [hallowed]
    exact ⟨_, rfl, (asked_of_not_present (by simp [hfind])).say⟩
  | some p =>
    cases p with
    | present =>
      have hallowed : refusal? name (c.resources r) = none := by simp [refusal?, hfind]
      rw [hallowed]
      obtain ⟨hcalls, hspace, hprefix, hservice⟩ := setResources_frame
        { c with calls := c.calls ++ [(r, name, c.space)] } r
        ((c.resources r).filter fun p => p.1 != name)
      refine ⟨_, rfl, Asked.say ⟨fun r' => ?_, hcalls, hspace, hprefix, hservice⟩⟩
      rw [resources_setResources, resources_noted, released, if_congr List.mem_singleton rfl rfl]
      by_cases hr : r' = r
      · rw [if_pos hr, if_pos hr, hr, if_pos hfind]
      · rw [if_neg hr, if_neg hr, resources_noted]
    | failing f =>
      have hkept : Asked c name [r] _ := asked_of_not_present (by simp [hfind])
      by_cases hstatus : f.hasStatus notFound = true
      · have hallowed : refusal? name (c.resources r) = none := by
          simp [refusal?, hfind, hstatus]
        rw [hallowed]
        dsimp only
        rw [if_pos hstatus]
        exact ⟨_, rfl, hkept.say⟩
      · have hrefused : refusal? name (c.resources r) = some f := by
          simp [refusal?, hfind, hstatus]
        rw [hrefused]
        dsimp only
        rw [if_neg hstatus]
        exact ⟨_, rfl, hkept⟩

/-- The requests of a call for one execution: the pod always, the service unless there is to be none
or the pod was refused. -/
def asks (c : Containers) (id : Int) : List Resource :=
  if c.deleteService && (refusal? (c.resourceName id) c.pods).isNone then [.pod, .service]
  else [.pod]

/-- Why a call for one execution fails, if it does. -/
def failure? (c : Containers) (id : Int) : Option Failure :=
  (refusal? (c.resourceName id) c.pods).or
    (if c.deleteService then refusal? (c.resourceName id) c.services else none)

theorem Asked.trans {name : String} {c' c'' : Containers} (h : Asked c name [.pod] c')
    (h' : Asked c' name [.service] c'') : Asked c name [.pod, .service] c'' where
  resources r := by
    rw [h'.resources, h.resources]
    cases r <;> simp
  calls := by
    rw [h'.calls, h.calls, h.space]
    simp
  space := h'.space.trans h.space
  podPrefix := h'.podPrefix.trans h.podPrefix
  deleteService := h'.deleteService.trans h.deleteService

theorem deleteContainer_asked (c : Containers) (id : Int) :
    ∃ c', c.deleteContainer id = (ending (c.failure? id), c') ∧
      Asked c (c.resourceName id) (c.asks id) c' := by
  obtain ⟨c', hpod, hasked⟩ := deleteResource_asked c .pod (c.resourceName id)
  unfold deleteContainer asks failure?
  dsimp only
  rw [hpod, resources_pod]
  cases hrefused : refusal? (c.resourceName id) c.pods with
  | some f =>
    refine ⟨c', rfl, ?_⟩
    simpa using hasked
  | none =>
    dsimp only [ending]
    rw [hasked.deleteService]
    cases hservice : c.deleteService with
    | false =>
      refine ⟨c', by simp, ?_⟩
      simpa using hasked
    | true =>
      obtain ⟨c'', hlast, hasked'⟩ := deleteResource_asked c' .service (c.resourceName id)
      have hservices : c'.resources .service = c.services := by
        rw [hasked.resources]
        rfl
      rw [hservices] at hlast
      refine ⟨c'', ?_, ?_⟩
      · simpa [ending] using hlast
      · simpa using hasked.trans hasked'

theorem Asked.resourceName {name : String} {asked : List Resource} {c' : Containers}
    (h : Asked c name asked c') (id : Int) : c'.resourceName id = c.resourceName id := by
  rw [Containers.resourceName, h.podPrefix]
  rfl

/-- A call does not change how any other call goes. -/
theorem Asked.same {name : String} {asked : List Resource} {c' : Containers}
    (h : Asked c name asked c') (id : Int) :
    c'.asks id = c.asks id ∧ c'.failure? id = c.failure? id := by
  have hrefusal (r : Resource) (other : String) :
      refusal? other (c'.resources r) = refusal? other (c.resources r) := by
    rw [h.resources]
    split
    · exact refusal?_released name other (c.resources r)
    · rfl
  have hpods : refusal? (c.resourceName id) c'.pods = refusal? (c.resourceName id) c.pods :=
    hrefusal .pod _
  have hservices : refusal? (c.resourceName id) c'.services =
      refusal? (c.resourceName id) c.services := hrefusal .service _
  unfold asks failure?
  rw [h.resourceName, h.deleteService, hpods, hservices]
  exact ⟨rfl, rfl⟩

theorem resourceName_injective (c : Containers) : Function.Injective c.resourceName := by
  intro id id' h
  exact Int.repr_inj.1 (String.append_right_inj _ |>.1 h)

/-! ## One call after another -/

/-- The containers after calls for some executions, one after another. -/
def after (c : Containers) (ids : List Int) : Containers :=
  ids.foldl (fun c id => (c.deleteContainer id).2) c

/-- The resources of a kind that calls leave. -/
def remaining (c : Containers) (r : Resource) (ids : List Int) (rs : List (String × Presence)) :
    List (String × Presence) :=
  ids.foldl (fun rs id => if r ∈ c.asks id then released (c.resourceName id) rs else rs) rs

/-- The containers `c'` are those of `c` after the calls for `ids`. -/
structure Follows (c : Containers) (ids : List Int) (c' : Containers) : Prop where
  resources : ∀ r, c'.resources r = c.remaining r ids (c.resources r)
  resourceName : ∀ id, c'.resourceName id = c.resourceName id
  asks : ∀ id, c'.asks id = c.asks id
  failure : ∀ id, c'.failure? id = c.failure? id

theorem after_follows (c : Containers) (ids : List Int) : Follows c ids (c.after ids) := by
  induction ids generalizing c with
  | nil => exact ⟨fun _ => rfl, fun _ => rfl, fun _ => rfl, fun _ => rfl⟩
  | cons id ids ih =>
    obtain ⟨c', hcall, hasked⟩ := deleteContainer_asked c id
    have hafter : c.after (id :: ids) = c'.after ids := by
      rw [after, List.foldl_cons, hcall]
      rfl
    rw [hafter]
    have hrest := ih c'
    exact {
      resources := by
        intro r
        rw [hrest.resources, hasked.resources]
        unfold remaining
        simp only [List.foldl_cons, hasked.resourceName, (hasked.same _).1]
      resourceName := fun id => (hrest.resourceName id).trans (hasked.resourceName id)
      asks := fun id => (hrest.asks id).trans (hasked.same id).1
      failure := fun id => (hrest.failure id).trans (hasked.same id).2 }

section

variable (c : Containers) (r : Resource)

theorem remaining_cons (id : Int) (ids : List Int) (rs : List (String × Presence)) :
    c.remaining r (id :: ids) rs =
      c.remaining r ids (if r ∈ c.asks id then released (c.resourceName id) rs else rs) := rfl

theorem remaining_perm {ids ids' : List Int} (h : ids.Perm ids') (rs : List (String × Presence)) :
    c.remaining r ids rs = c.remaining r ids' rs := by
  refine h.foldl_eq' (fun a _ b _ rs => ?_) rs
  by_cases ha : r ∈ c.asks a <;> by_cases hb : r ∈ c.asks b <;> simp [ha, hb, released_comm]

theorem find?_remaining_of_notMem {name : String} {ids : List Int}
    (h : ∀ id ∈ ids, name ≠ c.resourceName id) (rs : List (String × Presence)) :
    Keyed.find? name (c.remaining r ids rs) = Keyed.find? name rs := by
  induction ids generalizing rs with
  | nil => rfl
  | cons id ids ih =>
    rw [remaining_cons, ih fun id hid => h id (List.mem_cons_of_mem _ hid)]
    split
    · exact find?_released_of_ne (h id List.mem_cons_self)
    · rfl

theorem refusal?_remaining (name : String) (ids : List Int) (rs : List (String × Presence)) :
    refusal? name (c.remaining r ids rs) = refusal? name rs := by
  induction ids generalizing rs with
  | nil => rfl
  | cons id ids ih =>
    rw [remaining_cons, ih]
    split
    · exact refusal?_released _ name rs
    · rfl

variable {c r}

theorem not_present_remaining {name : String} {rs : List (String × Presence)}
    (h : Keyed.find? name rs ≠ some .present) (ids : List Int) :
    Keyed.find? name (c.remaining r ids rs) ≠ some .present := by
  induction ids generalizing rs with
  | nil => exact h
  | cons id ids ih =>
    rw [remaining_cons]
    refine ih ?_
    split
    · rw [find?_released]
      split
      · simp
      · exact h
    · exact h

/-- What a call asked to be deleted is not there after all the calls. -/
theorem not_present_remaining_of_mem {id : Int} {ids : List Int} (hid : id ∈ ids)
    (hr : r ∈ c.asks id) (rs : List (String × Presence)) :
    Keyed.find? (c.resourceName id) (c.remaining r ids rs) ≠ some .present := by
  induction ids generalizing rs with
  | nil => cases hid
  | cons id' ids ih =>
    rcases List.mem_cons.1 hid with rfl | hid
    · rw [remaining_cons, if_pos hr]
      exact not_present_remaining (not_present_released _ rs) ids
    · exact ih hid _

end

/-! ## What the calls can do -/

/-- What becomes of a call for one execution. -/
structure Deletion (c : Containers) (id : Int) (c' : Containers) (result : Except Failure Unit) :
    Prop where
  /-- It fails if the pod is refused, or else if there is to be a service and that is refused. -/
  fails_iff : ∀ f, result = .error f ↔ refusal? (c.resourceName id) c.pods = some f ∨
    refusal? (c.resourceName id) c.pods = none ∧ c.deleteService = true ∧
      refusal? (c.resourceName id) c.services = some f
  requests : c'.calls = c.calls ++ (c.asks id).map fun r => (r, c.resourceName id, c.space)
  gone : result = .ok () → Gone (c.resourceName id) c'.pods ∧
    (c.deleteService = true → Gone (c.resourceName id) c'.services)
  /-- Resources of other names are left alone, and so are those that no request was made for. -/
  others : ∀ r name, name ≠ c.resourceName id ∨ r ∉ c.asks id →
    Keyed.find? name (c'.resources r) = Keyed.find? name (c.resources r)
  /-- The same call once more goes the same way and changes nothing. -/
  repeated : (c'.deleteContainer id).1 = result ∧
    ∀ r, (c'.deleteContainer id).2.resources r = c'.resources r

/-- What calls for some executions do, one after another. -/
structure Confined (c : Containers) (ids : List Int) : Prop where
  call : ∀ id, Deletion (c.after ids) id ((c.after ids).deleteContainer id).2
    ((c.after ids).deleteContainer id).1
  /-- Every call goes as if it were the first. -/
  result : ∀ id, ((c.after ids).deleteContainer id).1 = (c.deleteContainer id).1
  repeated : ∀ id ∈ ids, ∀ r,
    ((c.after ids).deleteContainer id).2.resources r = (c.after ids).resources r
  gone : ∀ id ∈ ids, (c.deleteContainer id).1 = .ok () →
    Gone (c.resourceName id) (c.after ids).pods ∧
      (c.deleteService = true → Gone (c.resourceName id) (c.after ids).services)
  others : ∀ r name, (∀ id ∈ ids, name ≠ c.resourceName id) →
    Keyed.find? name ((c.after ids).resources r) = Keyed.find? name (c.resources r)
  /-- No two executions share a name. -/
  distinct : Function.Injective c.resourceName
  /-- The resources do not tell the order of the calls. -/
  unordered : ∀ ids', ids.Perm ids' → ∀ r, (c.after ids').resources r = (c.after ids).resources r

theorem pod_mem_asks (c : Containers) (id : Int) : .pod ∈ c.asks id := by
  unfold asks
  split <;> simp

theorem service_mem_asks : .service ∈ c.asks id ↔
    c.deleteService = true ∧ refusal? (c.resourceName id) c.pods = none := by
  unfold asks
  cases c.deleteService <;> cases refusal? (c.resourceName id) c.pods <;> simp

theorem failure?_eq_some_iff {f : Failure} : c.failure? id = some f ↔
    refusal? (c.resourceName id) c.pods = some f ∨
      refusal? (c.resourceName id) c.pods = none ∧ c.deleteService = true ∧
        refusal? (c.resourceName id) c.services = some f := by
  unfold failure?
  cases refusal? (c.resourceName id) c.pods <;> cases c.deleteService <;> simp

theorem failure?_eq_none_iff : c.failure? id = none ↔
    ∀ r ∈ c.asks id, refusal? (c.resourceName id) (c.resources r) = none := by
  unfold failure? asks
  cases hpods : refusal? (c.resourceName id) c.pods <;> cases c.deleteService <;>
    simp [resources_pod, resources_service, hpods]

/-- How a call for one execution ends, and what it asked. -/
theorem deleteContainer_cases (c : Containers) (id : Int) :
    Asked c (c.resourceName id) (c.asks id) (c.deleteContainer id).2 ∧
      (∀ f, (c.deleteContainer id).1 = .error f ↔ c.failure? id = some f) ∧
      ((c.deleteContainer id).1 = .ok () ↔ c.failure? id = none) := by
  obtain ⟨c', hcall, hasked⟩ := deleteContainer_asked c id
  rw [hcall]
  exact ⟨hasked, fun f => ending_eq_error_iff, ending_eq_ok_iff⟩

/-- Two calls end alike if they fail for the same reason. -/
theorem result_congr {c' : Containers} (h : c'.failure? id = c.failure? id) :
    (c'.deleteContainer id).1 = (c.deleteContainer id).1 := by
  obtain ⟨_, hcall, -⟩ := deleteContainer_asked c id
  obtain ⟨_, hcall', -⟩ := deleteContainer_asked c' id
  rw [hcall, hcall', h]

/-- A call that is left with nothing to delete changes nothing. -/
theorem resources_of_not_present
    (h : ∀ r ∈ c.asks id, Keyed.find? (c.resourceName id) (c.resources r) ≠ some .present)
    (r : Resource) : (c.deleteContainer id).2.resources r = c.resources r := by
  rw [(deleteContainer_cases c id).1.resources]
  split
  next hr => exact released_of_not_present (h r hr)
  next => rfl

theorem Follows.not_present {ids : List Int} {c' : Containers} (h : Follows c ids c')
    (hid : id ∈ ids) {r : Resource} (hr : r ∈ c.asks id) :
    Keyed.find? (c.resourceName id) (c'.resources r) ≠ some .present := by
  rw [h.resources]
  exact not_present_remaining_of_mem hid hr _

/-- Where a call did not fail, what it was about is gone after all the calls. -/
theorem Follows.gone {ids : List Int} {c' : Containers} (h : Follows c ids c') (hid : id ∈ ids)
    (hok : (c.deleteContainer id).1 = .ok ()) :
    Gone (c.resourceName id) c'.pods ∧
      (c.deleteService = true → Gone (c.resourceName id) c'.services) := by
  have hnone := (deleteContainer_cases c id).2.2.1 hok
  have hgone (r : Resource) (hr : r ∈ c.asks id) : Gone (c.resourceName id) (c'.resources r) := by
    refine gone_iff.2 ⟨h.not_present hid hr, ?_⟩
    rw [h.resources, refusal?_remaining]
    exact failure?_eq_none_iff.1 hnone r hr
  have hpod := failure?_eq_none_iff.1 hnone .pod (pod_mem_asks c id)
  exact ⟨hgone .pod (pod_mem_asks c id),
    fun hservice => hgone .service (service_mem_asks.2 ⟨hservice, hpod⟩)⟩

theorem after_singleton (c : Containers) (id : Int) :
    c.after [id] = (c.deleteContainer id).2 := rfl

theorem deleteContainer_deletion (c : Containers) (id : Int) :
    Deletion c id (c.deleteContainer id).2 (c.deleteContainer id).1 := by
  obtain ⟨hasked, hfails, -⟩ := deleteContainer_cases c id
  have hfollows := after_follows c [id]
  rw [after_singleton] at hfollows
  have hsettled : ∀ r ∈ (c.deleteContainer id).2.asks id,
      Keyed.find? ((c.deleteContainer id).2.resourceName id)
        ((c.deleteContainer id).2.resources r) ≠ some .present := by
    intro r hr
    rw [hfollows.asks] at hr
    rw [hfollows.resourceName]
    exact hfollows.not_present (List.mem_singleton.2 rfl) hr
  exact {
    fails_iff := fun f => (hfails f).trans failure?_eq_some_iff
    requests := hasked.calls
    gone := hfollows.gone (List.mem_singleton.2 rfl)
    others := by
      intro r name h
      rw [hasked.resources]
      split
      next hr => exact find?_released_of_ne (h.resolve_right fun hnot => hnot hr)
      next => rfl
    repeated := ⟨result_congr (hfollows.failure id), resources_of_not_present hsettled⟩ }

/-- Calls for some executions, one after another, deal with the resources of these executions alone,
and each of them goes and can be repeated as if there were no other. -/
theorem deletions_confined (c : Containers) (ids : List Int) : Confined c ids := by
  have hfollows := after_follows c ids
  exact {
    call := fun id => deleteContainer_deletion (c.after ids) id
    result := fun id => result_congr (hfollows.failure id)
    repeated := by
      intro id hid
      refine resources_of_not_present fun r hr => ?_
      rw [hfollows.asks] at hr
      rw [hfollows.resourceName]
      exact hfollows.not_present hid hr
    gone := fun id hid hok => hfollows.gone hid hok
    others := by
      intro r name h
      rw [hfollows.resources]
      exact find?_remaining_of_notMem c r h _
    distinct := resourceName_injective c
    unordered := by
      intro ids' hperm r
      rw [hfollows.resources, (after_follows c ids').resources, remaining_perm c r hperm] }

example : ((Containers.after { pods := [("fc-dep-7", .present), ("fc-dep-8", .present)] }
    [7, 7, 9]).pods) = [("fc-dep-8", .present)] := by
  decide

end Containers

end FlowWarden.Cluster
