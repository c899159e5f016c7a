import FlowWarden.Proofs.Autoscaler.Clamping
/-!
# Launches that race for one autoscaler

Any number of first launches of one workload may run at once. Each of them reads the autoscaler and
creates it if there is none, and their requests reach the cluster in any order. `launches_resolved`
says how every such race goes: at most one launch creates the autoscaler, each launch that found
none gets its own maxima, each later one is told that there is no target yet, and the autoscaler
stays as it was created.
-/

namespace FlowWarden.Autoscaler

/-- What came of one request to the cluster. -/
inductive Event
  | absent
  | found (object : Document)
  | created
  | conflict
  | failed (f : Cluster.Failure)

/-- A recommendation that is under way. -/
structure Launch where
  request : Request
  progress : Request.Progress

/-- Recommendations that take turns at one store. -/
structure Race where
  launches : List Launch
  store : Store

namespace Request

/-- What comes of the next request, if there is one to be made. -/
def event (r : Request) : Progress → Store → Option Event
  | .reading _, s =>
    match (s.read r.space r.name).1 with
    | .ok none => some .absent
    | .ok (some object) => some (.found object)
    | .error f => some (.failed f)
  | .creating, s =>
    match (s.createAs r.space r.name r.blueprint.manifest).1 with
    | .ok () => some .created
    | .error (.alreadyExists _) => some .conflict
    | .error f => some (.failed f)
  | .done _, _ => none

/-- What a launch comes to that finds an autoscaler without a target. -/
def unready (r : Request) : Outcome :=
  match r.policy with
  | .useMaximum => .ok r.maximum
  | .fail => .error (.notReady ⟨.text r.name, .noRecommendations⟩)

end Request

namespace Race

/-- All launches before their first request. -/
def opening (rs : List Request) (s : Store) : Race :=
  ⟨rs.map fun r => ⟨r, r.start⟩, s⟩

/-- The launch at a place makes its next request. -/
inductive Move : Race → Nat → Event → Race → Prop
  | mk {race : Race} {i : Nat} {l : Launch} {e : Event} : race.launches[i]? = some l →
      l.request.event l.progress race.store = some e →
      Move race i e
        ⟨race.launches.set i ⟨l.request, (l.request.advance l.progress race.store).1⟩,
          (l.request.advance l.progress race.store).2⟩

/-- Requests in any order, each with the place of the launch that made it. -/
inductive Run (start : Race) : List (Nat × Event) → Race → Prop
  | nil : Run start [] start
  | snoc {es race race' i e} : Run start es race → Move race i e race' →
      Run start (es ++ [(i, e)]) race'

end Race

/-! ## The answers of a store -/

/-- The objects are the same, and so are the faults. -/
structure Store.Like (s s' : Store) : Prop where
  objects : s'.objects = s.objects
  getFault : s'.getFault = s.getFault
  createFault : s'.createFault = s.createFault

theorem Store.Like.trans {s s' s'' : Store} (h : s.Like s') (h' : s'.Like s'') : s.Like s'' :=
  ⟨h'.objects.trans h.objects, h'.getFault.trans h.getFault, h'.createFault.trans h.createFault⟩

theorem Store.find?_of_holds {s : Store} {key : String} (h : s.holds key = false) :
    s.find? key = none ∨ s.find? key = some .null := by
  unfold Store.holds at h
  split at h
  next hn => exact .inl hn
  next hn => exact .inr hn
  next => cases h

theorem Store.holds_of_find? {s : Store} {key : String} {object : Document}
    (h : s.find? key = some object) (hn : object ≠ .null) : s.holds key = true := by
  unfold Store.holds
  split
  next hf => rw [hf] at h; cases h
  next hf => rw [hf] at h; exact absurd (Option.some.inj h).symm hn
  next => rfl

theorem Blueprint.manifest_ne_null (b : Blueprint) : b.manifest ≠ .null := by
  simp [manifest, Document.record]

/-- An autoscaler that nobody has touched yet has no target. -/
theorem target_manifest (b : Blueprint) (container : String) (resource : Resource) :
    target b.manifest container resource = .error (.notReady ⟨.text b.name, .noRecommendations⟩) := by
  rfl

namespace Request

variable {r : Request} {s : Store}

theorem read_absent (hf : s.getFault = none) (h : s.holds r.key = false) :
    s.read r.space r.name = (.ok none, s.noteCall (.get r.space r.name)) := by
  unfold Store.read Store.answerGet
  rw [hf]
  rcases Store.find?_of_holds h with hn | hn
  all_goals
    rw [key] at hn
    simp [hn, Cluster.Failure.hasStatus]

theorem read_found {object : Document} (hf : s.getFault = none) (h : s.find? r.key = some object)
    (hn : object ≠ .null) :
    s.read r.space r.name = (.ok (some object), s.noteCall (.get r.space r.name)) := by
  rw [key] at h
  unfold Store.read Store.answerGet
  rw [hf]
  dsimp only
  rw [h]
  cases object with
  | null => exact absurd rfl hn
  | _ => rfl

theorem createAs_won (hf : s.createFault = none) (h : s.holds r.key = false) (body : Document) :
    ∃ s', s.createAs r.space r.name body = (.ok (), s') ∧
      s'.objects = Keyed.insert r.key body s.objects ∧ s'.getFault = s.getFault ∧
      s'.createFault = s.createFault := by
  have hcall : (s.noteCall (.create r.space body)).answerCreate r.space r.name body =
      .ok ((s.noteCall (.create r.space body)).put r.key body) := by
    unfold Store.answerCreate
    rw [show (s.noteCall (.create r.space body)).createFault = none from hf]
    exact if_neg (Bool.eq_false_iff.1 h)
  unfold Store.createAs
  dsimp only
  rw [hcall]
  exact ⟨_, rfl, rfl, rfl, rfl⟩

theorem createAs_lost (hf : s.createFault = none) (h : s.holds r.key = true) (body : Document) :
    ∃ text s', s.createAs r.space r.name body = (.error (.alreadyExists text), s') ∧ s.Like s' := by
  have hcall : (s.noteCall (.create r.space body)).answerCreate r.space r.name body =
      .error (.status (some Cluster.conflict) (some "Conflict")) := by
    unfold Store.answerCreate
    rw [show (s.noteCall (.create r.space body)).createFault = none from hf]
    exact if_pos h
  unfold Store.createAs
  dsimp only
  rw [hcall]
  exact ⟨_, _, rfl, rfl, rfl, rfl⟩

/-! ## One request of a launch -/

theorem advance_absent (hf : s.getFault = none) (h : s.holds r.key = false)
    (limits : Decimal × Decimal) :
    r.event (.reading limits) s = some .absent ∧
      (r.advance (.reading limits) s).1 = .creating ∧ s.Like (r.advance (.reading limits) s).2 := by
  dsimp only [event, advance]
  rw [read_absent hf h]
  exact ⟨rfl, rfl, rfl, rfl, rfl⟩

/-- An autoscaler that another launch of the same name has created is not ready. -/
theorem advance_found {b : Blueprint} (hf : s.getFault = none)
    (h : s.find? r.key = some b.manifest) (hb : b.name = r.name) (limits : Decimal × Decimal) :
    r.event (.reading limits) s = some (.found b.manifest) ∧
      (r.advance (.reading limits) s).1 = .done r.unready ∧
      s.Like (r.advance (.reading limits) s).2 := by
  have htargets : r.targets b.manifest = .error (.notReady ⟨.text r.name, .noRecommendations⟩) := by
    rw [targets, target_manifest, hb]
    rfl
  have hobject (s : Store) :
      (r.fromObject limits b.manifest s).1 = r.unready ∧ s.Like (r.fromObject limits b.manifest s).2 := by
    unfold fromObject unready
    rw [htargets]
    dsimp only
    cases r.policy with
    | fail => exact ⟨rfl, rfl, rfl, rfl⟩
    | useMaximum => exact ⟨rfl, rfl, rfl, rfl⟩
  have hread := read_found hf h b.manifest_ne_null
  obtain ⟨houtcome, hlike⟩ := hobject (s.noteCall (.get r.space r.name))
  dsimp only [event, advance]
  rw [hread]
  dsimp only
  have hcall : s.Like (s.noteCall (.get r.space r.name)) := ⟨rfl, rfl, rfl⟩
  exact ⟨rfl, congrArg Progress.done houtcome, hcall.trans hlike⟩

theorem advance_created (hf : s.createFault = none) (h : s.holds r.key = false) :
    r.event .creating s = some .created ∧
      (r.advance .creating s).1 = .done (.ok r.maximum) ∧
      (r.advance .creating s).2.objects = Keyed.insert r.key r.blueprint.manifest s.objects ∧
      (r.advance .creating s).2.getFault = s.getFault ∧
      (r.advance .creating s).2.createFault = s.createFault := by
  obtain ⟨s', hcreate, hobjects, hget, hcr⟩ := createAs_won hf h r.blueprint.manifest
  dsimp only [event, advance, fromCreation]
  rw [hcreate]
  exact ⟨rfl, rfl, hobjects, hget, hcr⟩

theorem advance_conflict (hf : s.createFault = none) (h : s.holds r.key = true) :
    r.event .creating s = some .conflict ∧
      (r.advance .creating s).1 = .done (.ok r.maximum) ∧ s.Like (r.advance .creating s).2 := by
  obtain ⟨text, s', hcreate, hlike⟩ := createAs_lost hf h r.blueprint.manifest
  dsimp only [event, advance, fromCreation]
  rw [hcreate]
  exact ⟨rfl, rfl, hlike.trans ⟨rfl, rfl, rfl⟩⟩

end Request

/-! ## What the requests of a race have led to -/

/-- The launches that created the autoscaler. -/
def wins (es : List (Nat × Event)) : List Nat :=
  es.filterMap fun e => match e.2 with
    | .created => some e.1
    | _ => none

/-- What came of the requests of one launch. -/
def history (i : Nat) (es : List (Nat × Event)) : List Event :=
  es.filterMap fun e => if e.1 = i then some e.2 else none

theorem wins_append (es es' : List (Nat × Event)) : wins (es ++ es') = wins es ++ wins es' :=
  List.filterMap_append

theorem history_snoc (i : Nat) (es : List (Nat × Event)) (e : Event) :
    history i (es ++ [(i, e)]) = history i es ++ [e] := by
  simp [history]

theorem history_snoc_of_ne {i j : Nat} (h : j ≠ i) (es : List (Nat × Event)) (e : Event) :
    history i (es ++ [(j, e)]) = history i es := by
  simp [history, h]

/-- An event of a run is its last one or lies before it. -/
theorem split_snoc {α : Type} {xs pre post : List α} {x y : α} (h : xs ++ [x] = pre ++ y :: post) :
    (pre = xs ∧ y = x) ∨ ∃ post', xs = pre ++ y :: post' := by
  rcases List.eq_nil_or_concat post with rfl | ⟨post', z, rfl⟩
  · obtain ⟨rfl, hx⟩ := List.append_inj' h rfl
    exact .inl ⟨rfl, (List.singleton_inj.1 hx).symm⟩
  · rw [List.concat_eq_append, ← List.cons_append, ← List.append_assoc] at h
    exact .inr ⟨post', (List.append_inj' h rfl).1⟩

/-- Where a launch stands, by what came of its requests. -/
inductive Along (r : Request) : List Event → Request.Progress → Prop
  | waiting {limits} : r.start = .reading limits → Along r [] (.reading limits)
  | creating : Along r [.absent] .creating
  | won : Along r [.absent, .created] (.done (.ok r.maximum))
  | lost : Along r [.absent, .conflict] (.done (.ok r.maximum))
  | late {object} : Along r [.found object] (.done r.unready)

/-- The objects after some launches have created the autoscaler. -/
inductive Kept (rs : List Request) (objects : List (String × Document)) :
    List Nat → List (String × Document) → Prop
  | untouched : Kept rs objects [] objects
  | created {i r} : rs[i]? = some r →
      Kept rs objects [i] (Keyed.insert r.key r.blueprint.manifest objects)

/-- What may come of a request after the launches `ws` have created the autoscaler. -/
def InOrder (rs : List Request) (ws : List Nat) : Event → Prop
  | .absent | .created => ws = []
  | .conflict => ∃ i, ws = [i]
  | .found object => ∃ i r, ws = [i] ∧ rs[i]? = some r ∧ object = r.blueprint.manifest
  | .failed _ => False

/-- First launches of one workload, while the cluster has nothing or null for it. -/
structure Unlaunched (space name : String) (rs : List Request) (s : Store) : Prop where
  spaces : ∀ r ∈ rs, r.space = space
  names : ∀ r ∈ rs, r.name = name
  parsable : ∀ r ∈ rs, ∃ limits, r.maxSizes = .ok limits
  absent : s.holds (Store.key space name) = false
  getFault : s.getFault = none
  createFault : s.createFault = none

/-- What holds throughout a race. -/
structure Sound (rs : List Request) (s : Store) (es : List (Nat × Event)) (race : Race) : Prop where
  requests : race.launches.map Launch.request = rs
  getFault : race.store.getFault = none
  createFault : race.store.createFault = none
  objects : Kept rs s.objects (wins es) race.store.objects
  order : ∀ pre i e post, es = pre ++ (i, e) :: post → InOrder rs (wins pre) e
  along : ∀ i l, race.launches[i]? = some l → Along l.request (history i es) l.progress

section

variable {space name : String} {rs : List Request} {s : Store} {es : List (Nat × Event)}
  {race race' : Race} {i : Nat} {l : Launch} {e : Event}

theorem Unlaunched.key (h : Unlaunched space name rs s) {r : Request} (hr : r ∈ rs) :
    r.key = Store.key space name := by
  rw [Request.key, h.spaces r hr, h.names r hr]

theorem Unlaunched.sound (h : Unlaunched space name rs s) : Sound rs s [] (Race.opening rs s) where
  requests := by simp [Race.opening, Function.comp_def]
  getFault := h.getFault
  createFault := h.createFault
  objects := .untouched
  order := by
    intro pre i e post hes
    simp at hes
  along := by
    intro i l hl
    obtain ⟨r, hr, rfl⟩ := List.mem_map.1 (List.mem_of_getElem? hl)
    obtain ⟨limits, hlimits⟩ := h.parsable r hr
    have hstart : r.start = .reading limits := by rw [Request.start, hlimits]
    dsimp only
    rw [hstart]
    exact .waiting hstart

theorem Sound.request (h : Sound rs s es race) (hl : race.launches[i]? = some l) :
    rs[i]? = some l.request := by
  rw [← h.requests, List.getElem?_map, hl]
  rfl

/-- The cluster holds what the winner created, and nothing before that. -/
theorem Sound.answers (h : Sound rs s es race) (ho : Unlaunched space name rs s) {r : Request}
    (hr : r ∈ rs) :
    (wins es = [] ∧ race.store.objects = s.objects ∧ race.store.holds r.key = false) ∨
      ∃ w r', wins es = [w] ∧ rs[w]? = some r' ∧ r'.blueprint.name = r.name ∧
        race.store.find? r.key = some r'.blueprint.manifest := by
  have hkept := h.objects
  generalize hws : wins es = ws at hkept
  generalize hos : race.store.objects = os at hkept
  cases hkept with
  | untouched =>
    refine .inl ⟨rfl, rfl, ?_⟩
    rw [ho.key hr, ← ho.absent]
    simp only [Store.holds, Store.find?, hos]
  | @created w r' hw =>
    have hr' := List.mem_of_getElem? hw
    refine .inr ⟨w, r', rfl, hw, (ho.names r' hr').trans (ho.names r hr).symm, ?_⟩
    rw [Store.find?, hos, Keyed.find?_insert, ho.key hr, ho.key hr', if_pos rfl]

/-- The next request of a launch that is not done, whatever the others have done so far. -/
theorem Sound.next (h : Sound rs s es race) (ho : Unlaunched space name rs s)
    (hl : race.launches[i]? = some l) (hnot : ∀ outcome, l.progress ≠ .done outcome) :
    ∃ e, l.request.event l.progress race.store = some e ∧ InOrder rs (wins es) e ∧
      Along l.request (history i es ++ [e]) (l.request.advance l.progress race.store).1 ∧
      Kept rs s.objects (wins (es ++ [(i, e)]))
        (l.request.advance l.progress race.store).2.objects ∧
      (l.request.advance l.progress race.store).2.getFault = none ∧
      (l.request.advance l.progress race.store).2.createFault = none := by
  have hr := h.request hl
  have halong := h.along i l hl
  have hquiet {e : Event} (he : wins [(i, e)] = []) {s' : Store} (hlike : race.store.Like s') :
      Kept rs s.objects (wins (es ++ [(i, e)])) s'.objects ∧ s'.getFault = none ∧
        s'.createFault = none := by
    rw [wins_append, he, List.append_nil, hlike.objects, hlike.getFault, hlike.createFault]
    exact ⟨h.objects, h.getFault, h.createFault⟩
  obtain ⟨r, progress⟩ := l
  dsimp only at hr halong hnot ⊢
  generalize history i es = past at halong ⊢
  cases halong with
  | @waiting limits hstart =>
    rcases h.answers ho (List.mem_of_getElem? hr) with ⟨hnone, -, hholds⟩ | ⟨w, r', hone, hw, hn, hfind⟩
    · obtain ⟨hevent, hprogress, hlike⟩ := Request.advance_absent h.getFault hholds limits
      refine ⟨.absent, hevent, hnone, ?_, hquiet rfl hlike⟩
      rw [hprogress]
      exact .creating
    · obtain ⟨hevent, hprogress, hlike⟩ := Request.advance_found h.getFault hfind hn limits
      refine ⟨_, hevent, ⟨w, r', hone, hw, rfl⟩, ?_, hquiet rfl hlike⟩
      rw [hprogress]
      exact .late
  | creating =>
    rcases h.answers ho (List.mem_of_getElem? hr) with ⟨hnone, hsame, hholds⟩ | ⟨w, r', hone, -, -, hfind⟩
    · obtain ⟨hevent, hprogress, hobjects, hget, hcreate⟩ :=
        Request.advance_created h.createFault hholds
      refine ⟨.created, hevent, hnone, ?_, ?_, hget.trans h.getFault, hcreate.trans h.createFault⟩
      · rw [hprogress]
        exact .won
      · rw [wins_append, hnone, hobjects, hsame]
        exact .created hr
    · obtain ⟨hevent, hprogress, hlike⟩ := Request.advance_conflict h.createFault
        (Store.holds_of_find? hfind r'.blueprint.manifest_ne_null)
      refine ⟨.conflict, hevent, ⟨w, hone⟩, ?_, hquiet rfl hlike⟩
      rw [hprogress]
      exact .lost
  | won => exact absurd rfl (hnot _)
  | lost => exact absurd rfl (hnot _)
  | late => exact absurd rfl (hnot _)

theorem Sound.move (h : Sound rs s es race) (ho : Unlaunched space name rs s)
    (hm : Race.Move race i e race') : Sound rs s (es ++ [(i, e)]) race' := by
  cases hm with
  | @mk l _ hl hevent =>
    have hnot : ∀ outcome, l.progress ≠ .done outcome := by
      intro outcome hdone
      rw [hdone] at hevent
      cases hevent
    obtain ⟨e', hevent', horder, halong, hkept, hget, hcreate⟩ := h.next ho hl hnot
    obtain rfl : e' = e := Option.some.inj (hevent'.symm.trans hevent)
    have hi := (List.getElem?_eq_some_iff.1 hl).1
    exact {
      requests := by
        obtain ⟨hi', hget⟩ := List.getElem?_eq_some_iff.1 (h.request hl)
        rw [List.map_set, h.requests, ← hget]
        exact List.set_getElem_self hi'
      getFault := hget
      createFault := hcreate
      objects := hkept
      order := by
        intro pre j f post hes
        rcases split_snoc hes with ⟨rfl, heq⟩ | ⟨post', hes⟩
        · obtain ⟨rfl, rfl⟩ := Prod.mk.inj heq
          exact horder
        · exact h.order pre j f post' hes
      along := by
        intro j k hk
        by_cases hj : i = j
        · subst hj
          rw [List.getElem?_set_self hi] at hk
          obtain rfl := Option.some.inj hk
          rw [history_snoc]
          exact halong
        · rw [List.getElem?_set_ne hj] at hk
          rw [history_snoc_of_ne hj]
          exact h.along j k hk }

theorem Race.Run.sound (h : Race.Run (Race.opening rs s) es race) (ho : Unlaunched space name rs s) :
    Sound rs s es race := by
  induction h with
  | nil => exact ho.sound
  | snoc _ hm ih => exact ih.move ho hm

theorem Race.Run.append {start middle race : Race} {es es' : List (Nat × Event)}
    (h : Race.Run start es middle) (h' : Race.Run middle es' race) :
    Race.Run start (es ++ es') race := by
  induction h' with
  | nil => rwa [List.append_nil]
  | snoc _ hm ih =>
    rw [← List.append_assoc]
    exact .snoc ih hm

/-! ## How a race ends -/

/-- A launch that is not done can make its next request. -/
theorem Sound.movable (h : Sound rs s es race) (ho : Unlaunched space name rs s)
    (hl : race.launches[i]? = some l) (hnot : ∀ outcome, l.progress ≠ .done outcome) :
    ∃ e progress race', Race.Move race i e race' ∧
      race'.launches[i]? = some ⟨l.request, progress⟩ ∧
      Along l.request (history i es ++ [e]) progress := by
  obtain ⟨e, hevent, -, halong, -⟩ := h.next ho hl hnot
  refine ⟨e, _, _, .mk hl hevent, ?_, halong⟩
  exact List.getElem?_set_self (List.getElem?_eq_some_iff.1 hl).1

/-- A launch that found no autoscaler ends with its next request. -/
theorem Sound.ends_of_creating (h : Sound rs s es race) (ho : Unlaunched space name rs s)
    {r : Request} (hl : race.launches[i]? = some ⟨r, .creating⟩) :
    ∃ e race' outcome, Race.Move race i e race' ∧
      race'.launches[i]? = some ⟨r, .done outcome⟩ := by
  obtain ⟨e, progress, race', hm, hl', halong⟩ := h.movable ho hl (by simp)
  have hpast := h.along i _ hl
  generalize history i es = past at hpast halong
  cases hpast
  cases halong with
  | won => exact ⟨_, race', _, hm, hl'⟩
  | lost => exact ⟨_, race', _, hm, hl'⟩

/-- Every launch ends after at most two requests of its own, whatever the others do. -/
theorem Sound.ends (h : Sound rs s es race) (ho : Unlaunched space name rs s)
    (hl : race.launches[i]? = some l) :
    ∃ es' race' outcome, Race.Run race es' race' ∧ es'.length ≤ 2 ∧
      race'.launches[i]? = some ⟨l.request, .done outcome⟩ := by
  obtain ⟨r, progress⟩ := l
  cases progress with
  | done outcome => exact ⟨[], race, outcome, .nil, by simp, hl⟩
  | creating =>
    obtain ⟨e, race', outcome, hm, hl'⟩ := h.ends_of_creating ho hl
    exact ⟨[(i, e)], race', outcome, .snoc .nil hm, by simp, hl'⟩
  | reading limits =>
    obtain ⟨e, progress, race', hm, hl', halong⟩ := h.movable ho hl (by simp)
    have hpast := h.along i _ hl
    generalize history i es = past at hpast halong
    cases hpast
    cases halong with
    | creating =>
      obtain ⟨e', race'', outcome, hm', hl''⟩ := (h.move ho hm).ends_of_creating ho hl'
      exact ⟨_, race'', outcome, .snoc (.snoc .nil hm) hm', by simp, hl''⟩
    | late => exact ⟨_, race', _, .snoc .nil hm, by simp, hl'⟩

theorem mem_wins (h : (i, .created) ∈ es) : i ∈ wins es :=
  List.mem_filterMap.2 ⟨(i, .created), h, rfl⟩

theorem mem_history (h : (i, e) ∈ es) : e ∈ history i es :=
  List.mem_filterMap.2 ⟨(i, e), h, by simp⟩

theorem Along.of_absent {r : Request} {past : List Event} {progress : Request.Progress}
    (h : Along r past progress) (ha : .absent ∈ past) :
    progress = .creating ∨ progress = .done (.ok r.maximum) := by
  cases h with
  | creating => exact .inl rfl
  | won | lost => exact .inr rfl
  | waiting | late => simp at ha

theorem Along.of_created {r : Request} {past : List Event} {progress : Request.Progress}
    (h : Along r past progress) (hc : .created ∈ past ∨ .conflict ∈ past) :
    progress = .done (.ok r.maximum) := by
  cases h with
  | won | lost => rfl
  | waiting | creating | late => simp at hc

theorem Along.of_found {r : Request} {past : List Event} {progress : Request.Progress}
    (h : Along r past progress) {object : Document} (hf : .found object ∈ past) :
    progress = .done r.unready := by
  cases h with
  | late => rfl
  | waiting | creating | won | lost => simp at hf

theorem Along.outcome {r : Request} {past : List Event} {outcome : Outcome}
    (h : Along r past (.done outcome)) : outcome = .ok r.maximum ∨ outcome = r.unready := by
  cases h with
  | won | lost => exact .inl rfl
  | late => exact .inr rfl

theorem Along.length_le {r : Request} {past : List Event} {progress : Request.Progress}
    (h : Along r past progress) : past.length ≤ 2 := by
  cases h <;> simp

def Event.isRead : Event → Bool
  | absent | found _ => true
  | created | conflict | failed _ => false

/-- How the race of the launches `rs` over the store `s` stands after the events `es`. -/
structure Resolved (rs : List Request) (s : Store) (es : List (Nat × Event)) (race : Race) : Prop where
  /-- At most one creation succeeds, and one has as soon as any of them is answered. -/
  one : (wins es).length ≤ 1
  won : ∀ i, (i, .created) ∈ es ∨ (i, .conflict) ∈ es → (wins es).length = 1
  /-- The reads before it find nothing, and those after it the winner's autoscaler. -/
  reads : ∀ pre i e post, es = pre ++ (i, e) :: post → e.isRead = true →
    (wins pre = [] ∧ e = .absent) ∨
      ∃ w r, wins pre = [w] ∧ rs[w]? = some r ∧ e = .found r.blueprint.manifest
  /-- A launch that found nothing gets its own maxima, with its creation's answer at the latest. -/
  absent : ∀ (i : Nat) (r : Request), rs[i]? = some r → (i, .absent) ∈ es →
    race.launches[i]? = some ⟨r, .creating⟩ ∨ race.launches[i]? = some ⟨r, .done (.ok r.maximum)⟩
  created : ∀ (i : Nat) (r : Request), rs[i]? = some r → (i, .created) ∈ es ∨ (i, .conflict) ∈ es →
    race.launches[i]? = some ⟨r, .done (.ok r.maximum)⟩
  late : ∀ pre (i : Nat) (r : Request) e post, rs[i]? = some r → es = pre ++ (i, e) :: post → e.isRead = true →
    wins pre ≠ [] → race.launches[i]? = some ⟨r, .done r.unready⟩
  /-- Nothing else comes of a launch: there is no failure but a target that is not ready. -/
  outcomes : ∀ (i : Nat) (r : Request) (outcome : Outcome), race.launches[i]? = some ⟨r, .done outcome⟩ →
    outcome = .ok r.maximum ∨
      r.policy = .fail ∧ outcome = .error (.notReady ⟨.text r.name, .noRecommendations⟩)
  /-- What the winner created is there, and stays however the race goes on. -/
  stored : ∀ i ∈ wins es, ∃ r, rs[i]? = some r ∧ ∀ es' race', Race.Run race es' race' →
    race'.store.find? r.key = some r.blueprint.manifest
  untouched : wins es = [] → race.store.objects = s.objects
  others : ∀ key, (∀ r ∈ rs, r.key ≠ key) → race.store.find? key = s.find? key
  /-- Every launch ends after at most two requests, whatever the others have done. -/
  requests : ∀ i, i < rs.length → (history i es).length ≤ 2
  ends : ∀ (i : Nat) (r : Request), rs[i]? = some r → ∃ es' race' outcome, Race.Run race es' race' ∧
    race'.launches[i]? = some ⟨r, .done outcome⟩

theorem unready_eq (r : Request) : r.unready = .ok r.maximum ∨
    r.policy = .fail ∧ r.unready = .error (.notReady ⟨.text r.name, .noRecommendations⟩) := by
  unfold Request.unready
  cases r.policy with
  | useMaximum => exact .inl rfl
  | fail => exact .inr ⟨rfl, rfl⟩

theorem Sound.launch (h : Sound rs s es race) {r : Request} (hr : rs[i]? = some r) :
    ∃ progress, race.launches[i]? = some ⟨r, progress⟩ ∧ Along r (history i es) progress := by
  rw [← h.requests, List.getElem?_map] at hr
  obtain ⟨l, hl, rfl⟩ := Option.map_eq_some_iff.1 hr
  exact ⟨l.progress, hl, h.along i l hl⟩

theorem Sound.wins_cases (h : Sound rs s es race) :
    (wins es = [] ∧ race.store.objects = s.objects) ∨ ∃ w r, wins es = [w] ∧ rs[w]? = some r ∧
      race.store.objects = Keyed.insert r.key r.blueprint.manifest s.objects := by
  have hkept := h.objects
  generalize hws : wins es = ws at hkept
  generalize hos : race.store.objects = os at hkept
  cases hkept with
  | untouched => exact .inl ⟨rfl, rfl⟩
  | created hw => exact .inr ⟨_, _, rfl, hw, rfl⟩

/-- An answered creation has succeeded, or another has before it. -/
theorem Sound.length_wins (h : Sound rs s es race) (hi : (i, .created) ∈ es ∨ (i, .conflict) ∈ es) :
    (wins es).length = 1 := by
  rcases h.wins_cases with ⟨hw, -⟩ | ⟨w, r, hw, -⟩
  · rcases hi with hi | hi
    · exact absurd (mem_wins hi) (by simp [hw])
    · -- A conflict says that the autoscaler was there already.
      obtain ⟨pre, post, hes⟩ := List.append_of_mem hi
      obtain ⟨w, hpre⟩ := h.order pre i .conflict post hes
      rw [hes, wins_append, hpre] at hw
      simp at hw
  · simp [hw]

theorem Sound.reads (h : Sound rs s es race) {pre post : List (Nat × Event)}
    (hes : es = pre ++ (i, e) :: post) (he : e.isRead = true) :
    (wins pre = [] ∧ e = .absent) ∨
      ∃ w r, wins pre = [w] ∧ rs[w]? = some r ∧ e = .found r.blueprint.manifest := by
  have horder := h.order pre i e post hes
  cases e with
  | absent => exact .inl ⟨horder, rfl⟩
  | found object =>
    obtain ⟨w, r, hw, hr, rfl⟩ := horder
    exact .inr ⟨w, r, hw, hr, rfl⟩
  | created | conflict | failed => cases he

theorem Sound.late (h : Sound rs s es race) {pre post : List (Nat × Event)} {r : Request}
    (hr : rs[i]? = some r) (hes : es = pre ++ (i, e) :: post) (he : e.isRead = true)
    (hw : wins pre ≠ []) : race.launches[i]? = some ⟨r, .done r.unready⟩ := by
  obtain ⟨progress, hl, halong⟩ := h.launch hr
  rcases h.reads hes he with ⟨hnone, -⟩ | ⟨w, r', -, -, rfl⟩
  · exact absurd hnone hw
  · have hmem : .found r'.blueprint.manifest ∈ history i es := mem_history (by simp [hes])
    rw [hl, halong.of_found hmem]

theorem Sound.stored (h : Sound rs s es race) (hi : i ∈ wins es) :
    ∃ r, rs[i]? = some r ∧ race.store.find? r.key = some r.blueprint.manifest := by
  rcases h.wins_cases with ⟨hw, -⟩ | ⟨w, r, hw, hr, hobjects⟩
  · simp [hw] at hi
  · obtain rfl : i = w := by simpa [hw] using hi
    exact ⟨r, hr, by rw [Store.find?, hobjects, Keyed.find?_insert, if_pos rfl]⟩

theorem Sound.others (h : Sound rs s es race) {key : String} (hkey : ∀ r ∈ rs, r.key ≠ key) :
    race.store.find? key = s.find? key := by
  rcases h.wins_cases with ⟨-, hsame⟩ | ⟨w, r, -, hr, hobjects⟩
  · rw [Store.find?, hsame, Store.find?]
  · rw [Store.find?, hobjects, Keyed.find?_insert, if_neg (hkey r (List.mem_of_getElem? hr)),
      Store.find?]

/-- However any number of first launches take turns, one of them creates the autoscaler and all of
them come to what they should. -/
theorem launches_resolved (ho : Unlaunched space name rs s)
    (h : Race.Run (Race.opening rs s) es race) : Resolved rs s es race := by
  have hs := h.sound ho
  exact {
    one := by
      rcases hs.wins_cases with ⟨hw, -⟩ | ⟨w, r, hw, -⟩ <;> simp [hw]
    won := fun i => hs.length_wins
    reads := fun pre i e post => hs.reads
    absent := by
      intro i r hr ha
      obtain ⟨progress, hl, halong⟩ := hs.launch hr
      rcases halong.of_absent (mem_history ha) with rfl | rfl
      · exact .inl hl
      · exact .inr hl
    created := by
      intro i r hr hc
      obtain ⟨progress, hl, halong⟩ := hs.launch hr
      rw [hl, halong.of_created (hc.imp mem_history mem_history)]
    late := fun pre i r e post => hs.late
    outcomes := by
      intro i r outcome hl
      rcases (hs.along i _ hl).outcome with h | h
      · exact .inl h
      · exact h ▸ unready_eq r
    stored := by
      intro i hi
      obtain ⟨r, hr, -⟩ := hs.stored hi
      refine ⟨r, hr, fun es' race' h' => ?_⟩
      have hi' : i ∈ wins (es ++ es') := by
        rw [wins_append]
        exact List.mem_append_left _ hi
      obtain ⟨r', hr', hfind⟩ := ((h.append h').sound ho).stored hi'
      obtain rfl : r = r' := Option.some.inj (hr.symm.trans hr')
      exact hfind
    untouched := by
      intro hw
      rcases hs.wins_cases with ⟨-, hsame⟩ | ⟨w, r, hw', -⟩
      · exact hsame
      · rw [hw] at hw'
        cases hw'
    others := fun key => hs.others
    requests := by
      intro i hi
      obtain ⟨progress, -, halong⟩ := hs.launch (List.getElem?_eq_getElem hi)
      exact halong.length_le
    ends := by
      intro i r hr
      obtain ⟨progress, hl, -⟩ := hs.launch hr
      obtain ⟨es', race', outcome, hrun, -, hl'⟩ := hs.ends ho hl
      exact ⟨es', race', outcome, hrun, hl'⟩ }

end

/-! ## Three launches -/

namespace Request

/-- A launch with another container and smaller maxima. -/
def sidecar : Request :=
  { headroom with container := "sidecar", maxCpu := .text "1", maxMemory := .text "1Gi" }

def latecomer : Request :=
  { headroom with maxCpu := .text "250m" }

theorem maxSizes_of_parse {r : Request} {cpu memory : Decimal} (hc : Quantity.parse r.maxCpu = .ok cpu)
    (hm : Quantity.parse r.maxMemory = .ok memory) : r.maxSizes = .ok (cpu, memory) := by
  unfold maxSizes
  rw [hc, hm]

theorem headroom_maxSizes :
    headroom.maxSizes = .ok (.finite false 2000 (-3), .finite false 2147483648 0) :=
  maxSizes_of_parse (by decide +kernel) (by decide +kernel)

theorem sidecar_maxSizes :
    sidecar.maxSizes = .ok (.finite false 1 0, .finite false 1073741824 0) :=
  maxSizes_of_parse (by decide +kernel) (by decide +kernel)

theorem latecomer_maxSizes :
    latecomer.maxSizes = .ok (.finite false 250 (-3), .finite false 2147483648 0) :=
  maxSizes_of_parse (by decide +kernel) (by decide +kernel)

end Request

section

open Request

def rivals : List Request :=
  [headroom, sidecar, latecomer]

/-- The first two find nothing, the second creates the autoscaler, and the third finds it. -/
def rivalEvents : List (Nat × Event) :=
  [(0, .absent), (1, .absent), (1, .created), (0, .conflict), (2, .found sidecar.blueprint.manifest)]

theorem rivals_unlaunched : Unlaunched "default" "daily" rivals { objects := [("default/daily", .null)] } where
  spaces := by simp [rivals, headroom, sidecar, latecomer]
  names := by simp [rivals, headroom, sidecar, latecomer]
  parsable := by simp [rivals, headroom_maxSizes, sidecar_maxSizes, latecomer_maxSizes]
  absent := rfl
  getFault := rfl
  createFault := rfl

theorem rivals_run :
    ∃ race, Race.Run (Race.opening rivals { objects := [("default/daily", .null)] }) rivalEvents race := by
  simp only [Race.opening, rivals, List.map, start, headroom_maxSizes, sidecar_maxSizes,
    latecomer_maxSizes]
  exact ⟨_, .snoc (.snoc (.snoc (.snoc (.snoc .nil (.mk rfl rfl)) (.mk rfl rfl)) (.mk rfl rfl))
    (.mk rfl rfl)) (.mk rfl rfl)⟩

theorem rivals_resolved :
    ∃ race, Race.Run (Race.opening rivals { objects := [("default/daily", .null)] }) rivalEvents race ∧
      Resolved rivals { objects := [("default/daily", .null)] } rivalEvents race ∧
      race.launches[0]? = some ⟨headroom, .done (.ok headroom.maximum)⟩ ∧
      race.launches[1]? = some ⟨sidecar, .done (.ok sidecar.maximum)⟩ ∧
      race.launches[2]? =
        some ⟨latecomer, .done (.error (.notReady ⟨.text "daily", .noRecommendations⟩))⟩ := by
  obtain ⟨race, hrun⟩ := rivals_run
  have h := launches_resolved rivals_unlaunched hrun
  refine ⟨race, hrun, h, h.created 0 headroom rfl (.inr ?_), h.created 1 sidecar rfl (.inl ?_), ?_⟩
  · simp [rivalEvents]
  · simp [rivalEvents]
  · exact h.late (rivalEvents.take 4) 2 latecomer _ [] rfl rfl rfl (by simp [wins, rivalEvents])

end

end FlowWarden.Autoscaler
