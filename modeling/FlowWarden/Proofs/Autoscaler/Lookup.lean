import FlowWarden.Proofs.Autoscaler.Effects
import FlowWarden.Proofs.Document.Writable
import FlowWarden.Proofs.Quantity.Worth
/-!
# Which target is found

A target is read from the first entry for a container, wherever that stands in the list. For an
object whose levels may all be missing or empty, `target_lookup` says which text is found, under
which name and for which reason none is found otherwise, and that whatever stands after the first
entry for the container does not matter. Nothing else happens to an object that can be written;
where one cannot, the lookup says so exactly if it would have to show the part at fault.
-/

namespace FlowWarden

/-! ## Blank texts -/

theorem Text.isBlankText_iff {s : String} : isBlankText s = true ↔ trim s = "" := by
  refine ⟨Quantity.trim_eq_empty, fun h => ?_⟩
  have hchars : trimChars s.toList = [] := by
    have hlist := congrArg String.toList h
    simpa [trim] using hlist
  rw [trimChars, List.reverse_eq_nil_iff, List.dropWhile_eq_nil_iff] at hchars
  rw [isBlankText, List.all_eq_true]
  intro c hc
  rw [← List.takeWhile_append_dropWhile (p := isBlank) (l := s.toList), List.mem_append] at hc
  rcases hc with hc | hc
  · exact List.mem_takeWhile_imp hc
  · exact hchars c (List.mem_reverse.2 hc)

/-! ## Paths -/

theorem Document.at?_one (key : String) (d : Document) : d.at? [key] = d.get? key := by
  rw [at?]
  cases d.get? key <;> rfl

theorem Document.at?_two (key key' : String) (d : Document) :
    d.at? [key, key'] = (d.get? key).bind (get? key') := by
  rw [at?]
  exact Option.bind_congr fun v _ => at?_one key' v

theorem Document.at?_three (key key' key'' : String) (d : Document) :
    d.at? [key, key', key''] = (d.at? [key, key']).bind (get? key'') := by
  rw [at?_two, at?, Option.bind_assoc]
  exact Option.bind_congr fun v _ => at?_two key' key'' v

theorem Document.isWritable_of_at? {keys : List String} {d v : Document} (hd : d.isWritable = true)
    (h : d.at? keys = some v) : v.isWritable = true := by
  induction keys generalizing d with
  | nil =>
    obtain rfl := Option.some.inj h
    exact hd
  | cons key keys ih =>
    obtain ⟨part, hpart, h⟩ := Option.bind_eq_some_iff.1 h
    exact ih (isWritable_of_get? hd hpart) h

namespace Autoscaler

/-! ## What an object lists -/

/-- A level that is missing, holds nothing, or is a map. -/
def IsPart (d : Option Document) : Prop :=
  ∀ v, d = some v → v.isEmpty = true ∨ ∃ es, v = .map es

/-- A list that may be missing or hold nothing. -/
def IsListing (d : Option Document) : Prop :=
  ∀ v, d = some v → v.isEmpty = true ∨ ∃ ds, v = .list ds

/-- The entries that an object lists. -/
def listing (object : Document) : List Document :=
  match object.at? ["status", "recommendation", "containerRecommendations"] with
  | some (.list ds) => ds
  | _ => []

/-- An object in which every level may be missing or hold nothing. -/
structure Shaped (object : Document) : Prop where
  isMap : ∃ es, object = .map es
  metadata : IsPart (object.get? "metadata")
  status : IsPart (object.get? "status")
  recommendation : IsPart (object.at? ["status", "recommendation"])
  list : IsListing (object.at? ["status", "recommendation", "containerRecommendations"])
  entries : ∀ d ∈ listing object, (∃ es, d = .map es) ∧ IsPart (d.get? "target")

/-- The name that an object gives itself. -/
def ownName (object : Document) : Document :=
  (object.at? ["metadata", "name"]).getD (.text "")

def isFor (container : String) (entry : Document) : Bool :=
  (entry.get? "containerName").any (Document.isText container)

/-- What the first entry for a container says about a resource. -/
def value? (object : Document) (container : String) (resource : Resource) : Option Document :=
  ((listing object).find? (isFor container)).bind fun entry => entry.at? ["target", resource.key]

/-- Why nothing is found. -/
def reasonOf (object : Document) (container : String) (resource : Resource) : Reason :=
  if (listing object).isEmpty then .noRecommendations
  else if ((listing object).find? (isFor container)).isSome then .missingTarget resource container
  else .noEntry container (entryNames (listing object))

/-- What is said of an object where nothing is found. -/
def unready (object : Document) (container : String) (resource : Resource) : NotReady :=
  ⟨ownName object, reasonOf object container resource⟩

/-! ## The levels -/

theorem level_part {d : Option Document} (h : IsPart d) :
    ∃ es, level d = .ok es ∧ ∀ key, Document.field? key es = d.bind (Document.get? key) := by
  cases d with
  | none => exact ⟨[], rfl, fun _ => rfl⟩
  | some v =>
    cases hv : v.isEmpty with
    | true =>
      refine ⟨[], by rw [level, hv]; rfl, fun key => ?_⟩
      cases v with
      | map es =>
        obtain rfl : es = [] := List.isEmpty_iff.1 hv
        rfl
      | _ => rfl
    | false =>
      obtain ⟨es, rfl⟩ := (h v rfl).resolve_left (by simp [hv])
      exact ⟨es, by rw [level, hv]; rfl, fun _ => rfl⟩

theorem isPart_of_get? {d v : Document} {key : String} (h : d.get? key = some v) :
    IsPart (some d) := by
  rintro _ ⟨⟩
  cases d with
  | map es => exact .inr ⟨es, rfl⟩
  | _ => cases h

section

variable {es : List (Document × Document)}

theorem objectName_eq (h : IsPart ((Document.map es).get? "metadata")) :
    objectName es = .ok (ownName (.map es)) := by
  obtain ⟨metadata, hlevel, hfield⟩ := level_part h
  refine bind_eq_ok.2 ⟨metadata, hlevel, ?_⟩
  rw [hfield, ownName, Document.at?_two]
  rfl

theorem recommendations_eq (hstatus : IsPart ((Document.map es).get? "status"))
    (hrec : IsPart ((Document.map es).at? ["status", "recommendation"]))
    (hlist : IsListing
      ((Document.map es).at? ["status", "recommendation", "containerRecommendations"])) :
    recommendations es = .ok (listing (.map es)) := by
  obtain ⟨status, hstatuslevel, hstatusfield⟩ := level_part hstatus
  rw [Document.at?_two, ← hstatusfield] at hrec
  obtain ⟨recommendation, hreclevel, hrecfield⟩ := level_part hrec
  have hpath : (Document.map es).at? ["status", "recommendation", "containerRecommendations"] =
      Document.field? "containerRecommendations" recommendation := by
    rw [Document.at?_three, Document.at?_two, ← hstatusfield, ← hrecfield]
  refine bind_eq_ok.2 ⟨status, hstatuslevel, bind_eq_ok.2 ⟨recommendation, hreclevel, ?_⟩⟩
  rw [hpath] at hlist
  rw [listing, hpath]
  cases hfield : Document.field? "containerRecommendations" recommendation with
  | none => rfl
  | some v =>
    dsimp only
    rcases hlist v hfield with hempty | ⟨ds, rfl⟩
    · rw [if_pos hempty]
      cases v with
      | list ds =>
        obtain rfl : ds = [] := List.isEmpty_iff.1 hempty
        rfl
      | _ => rfl
    · cases ds <;> rfl

end

/-! ## The first entry -/

theorem isFor_map (container : String) (es : List (Document × Document)) :
    isFor container (.map es) = (entryName es).isText container := by
  rw [isFor, Document.get?, entryName]
  cases Document.field? "containerName" es <;> rfl

theorem isMap_of_isFor {container : String} {d : Document} (h : isFor container d = true) :
    ∃ es, d = .map es := by
  cases d with
  | map es => exact ⟨es, rfl⟩
  | _ => cases h

/-- Among maps the first entry for a container is found. -/
theorem findEntry_eq (container : String) {ds : List Document} (h : ∀ d ∈ ds, ∃ es, d = .map es) :
    ∃ found, findEntry container ds = .ok found ∧
      found.map Document.map = ds.find? (isFor container) := by
  induction ds with
  | nil => exact ⟨none, rfl, rfl⟩
  | cons d ds ih =>
    obtain ⟨es, rfl⟩ := h d List.mem_cons_self
    rw [findEntry, entries, List.find?_cons, isFor_map]
    dsimp only
    cases (entryName es).isText container with
    | true => exact ⟨some es, rfl, rfl⟩
    | false => exact ih fun d' hd' => h d' (List.mem_cons_of_mem _ hd')

/-- Nothing behind an entry for the container is looked at. -/
theorem findEntry_append (container : String) (pre : List Document) {entry : Document}
    (h : isFor container entry = true) :
    ∃ result, result ≠ .ok none ∧ ∀ post, findEntry container (pre ++ entry :: post) = result := by
  induction pre with
  | nil =>
    obtain ⟨es, rfl⟩ := isMap_of_isFor h
    refine ⟨.ok (some es), by simp, fun post => ?_⟩
    rw [isFor_map] at h
    rw [List.nil_append, findEntry, entries]
    dsimp only
    rw [if_pos h]
  | cons d pre ih =>
    obtain ⟨result, hresult, hfind⟩ := ih
    -- An entry that is no map, or an earlier one for the container, ends the search already.
    cases hd : entries d with
    | error m => exact ⟨.error m, by simp, fun post => by rw [List.cons_append, findEntry, hd]⟩
    | ok es =>
      by_cases hname : (entryName es).isText container = true
      · refine ⟨.ok (some es), by simp, fun post => ?_⟩
        rw [List.cons_append, findEntry, hd]
        dsimp only
        rw [if_pos hname]
      · refine ⟨result, hresult, fun post => ?_⟩
        rw [List.cons_append, findEntry, hd]
        dsimp only
        rw [if_neg hname, hfind]

/-! ## An object in which levels may be missing -/

section

variable {object : Document} {container : String} {resource : Resource}

/-- An entry is looked for once the name and the list have been read. -/
theorem containerEntry_of {es : List (Document × Document)} {ds : List Document} {name : Document}
    (hname : objectName es = .ok name) (hds : recommendations es = .ok ds) :
    containerEntry (.map es) container =
      if ds.isEmpty then .error (NotReady.failure ⟨name, .noRecommendations⟩)
      else match findEntry container ds with
        | .error m => .error (.malformed m)
        | .ok (some entry) => .ok entry
        | .ok none => .error (NotReady.failure ⟨name, .noEntry container (entryNames ds)⟩) := by
  have hentries : entries (.map es) = .ok es := rfl
  simp only [containerEntry, hentries, hname, hds, Except.mapError, bind, Except.bind, throw,
    throwThe, MonadExceptOf.throw]
  split
  · rfl
  · rcases findEntry container ds with m | _ | entry <;> rfl

theorem containerEntry_eq (h : Shaped object) (container : String) :
    (∃ es, containerEntry object container = .ok es ∧
        (listing object).find? (isFor container) = some (.map es)) ∨
      (listing object).find? (isFor container) = none ∧
        containerEntry object container = .error (NotReady.failure ⟨ownName object,
          if (listing object).isEmpty then .noRecommendations
          else .noEntry container (entryNames (listing object))⟩) := by
  obtain ⟨es, rfl⟩ := h.isMap
  have hname := objectName_eq h.metadata
  have hds := recommendations_eq h.status h.recommendation h.list
  obtain ⟨found, hfound, hfind⟩ := findEntry_eq container fun d hd => (h.entries d hd).1
  rw [containerEntry_of hname hds, hfound, ← hfind]
  cases hempty : (listing (.map es)).isEmpty with
  | true =>
    rw [List.isEmpty_iff.1 hempty] at hfind
    obtain rfl : found = none := Option.map_eq_none_iff.1 hfind
    exact .inr ⟨rfl, rfl⟩
  | false =>
    cases found with
    | none => exact .inr ⟨rfl, rfl⟩
    | some entry => exact .inl ⟨entry, rfl, rfl⟩

/-! ## The text of a target -/

/-- The text of a value, unless that is null or blank. -/
def given? : Document → Option String
  | .null => none
  | v => if Text.isBlankText v.display then none else some v.display

theorem given?_of_ne {v : Document} (h : v ≠ .null) :
    given? v = if Text.isBlankText v.display then none else some v.display := by
  cases v with
  | null => exact absurd rfl h
  | _ => rfl

theorem given?_eq_none_iff {v : Document} :
    given? v = none ↔ v = .null ∨ Text.trim v.display = "" := by
  rw [← Text.isBlankText_iff]
  by_cases hnull : v = .null
  · subst hnull
    simp [given?]
  · rw [given?_of_ne hnull]
    by_cases hblank : Text.isBlankText v.display = true <;> simp [hblank, hnull]

theorem given?_eq_some_iff {v : Document} {text : String} :
    given? v = some text ↔ v ≠ .null ∧ Text.trim v.display ≠ "" ∧ text = v.display := by
  rw [Ne, Ne, ← Text.isBlankText_iff]
  by_cases hnull : v = .null
  · subst hnull
    simp [given?]
  · rw [given?_of_ne hnull]
    by_cases hblank : Text.isBlankText v.display = true
    · simp [hblank]
    · simp [hblank, hnull, eq_comm]

theorem target_of {entry values : List (Document × Document)}
    (hentry : containerEntry object container = .ok entry)
    (hvalues : level (Document.field? "target" entry) = .ok values) :
    target object container resource =
      if (Document.field? resource.key values).all Document.isWritable then
        match (Document.field? resource.key values).bind given? with
        | some text => .ok text
        | none => target.missing object container resource
      else .error (.malformed .unwritable) := by
  simp only [target, hentry, hvalues, Except.mapError, bind, Except.bind]
  cases Document.field? resource.key values with
  | none => rfl
  | some v =>
    rw [Option.getD_some, Option.bind_some, Option.all_some]
    split
    · rfl
    · next hnull =>
      rw [given?_of_ne hnull]
      cases v.isWritable with
      | false => rfl
      | true => cases Text.isBlankText v.display <;> rfl

theorem missing_of {es : List (Document × Document)} {name : Document}
    (hname : objectName es = .ok name) :
    target.missing (.map es) container resource =
      .error (NotReady.failure ⟨name, .missingTarget resource container⟩) := by
  have hentries : entries (.map es) = .ok es := rfl
  simp only [target.missing, hentries, hname, Except.mapError, bind, Except.bind]
  rfl

theorem target_eq (h : Shaped object) (container : String) (resource : Resource) :
    target object container resource =
      if (value? object container resource).all Document.isWritable then
        match (value? object container resource).bind given? with
        | some text => .ok text
        | none => .error (unready object container resource).failure
      else .error (.malformed .unwritable) := by
  rcases containerEntry_eq h container with ⟨entry, hentry, hfind⟩ | ⟨hfind, hentry⟩
  · obtain ⟨es, rfl⟩ := h.isMap
    have hmem := List.mem_of_find?_eq_some hfind
    obtain ⟨values, hvalues, hfield⟩ := level_part (h.entries _ hmem).2
    have hvalue : value? (.map es) container resource = Document.field? resource.key values := by
      rw [value?, hfind, Option.bind_some, Document.at?_two, hfield]
    have hreason : reasonOf (.map es) container resource = .missingTarget resource container := by
      have hlisted : ¬ (listing (.map es)).isEmpty = true := by simp [List.ne_nil_of_mem hmem]
      rw [reasonOf, hfind, if_neg hlisted]
      rfl
    rw [target_of hentry hvalues, hvalue, unready, hreason, missing_of (objectName_eq h.metadata)]
  · have hvalue : value? object container resource = none := by
      rw [value?, hfind]
      rfl
    rw [target, hentry, hvalue, unready, reasonOf, hfind]
    rfl

/-! ## What stands behind the first entry -/

/-- A list that is there is read, whatever it holds. -/
theorem recommendations_of_listed {es : List (Document × Document)} {ds : List Document}
    (h : (Document.map es).at? ["status", "recommendation", "containerRecommendations"] =
      some (.list ds)) : recommendations es = .ok ds := by
  have hlisting : listing (.map es) = ds := by rw [listing, h]
  have hlist : IsListing (some (Document.list ds)) := by
    rintro _ ⟨⟩
    exact .inr ⟨ds, rfl⟩
  have hpath := h
  rw [Document.at?_three, Option.bind_eq_some_iff] at hpath
  obtain ⟨recommendation, hrec, hentries⟩ := hpath
  have hinner := hrec
  rw [Document.at?_two, Option.bind_eq_some_iff] at hinner
  obtain ⟨status, hstatus, hrecommendation⟩ := hinner
  rw [← hlisting]
  refine recommendations_eq ?_ ?_ (by rw [h]; exact hlist)
  · rw [hstatus]
    exact isPart_of_get? hrecommendation
  · rw [hrec]
    exact isPart_of_get? hentries

theorem containerEntry_of_error {es : List (Document × Document)} {m : Malformed}
    (hname : objectName es = .error m) :
    containerEntry (.map es) container = .error (.malformed m) := by
  have hentries : entries (.map es) = .ok es := rfl
  simp only [containerEntry, hentries, hname, Except.mapError, bind, Except.bind]

section

variable {es es' : List (Document × Document)}

theorem target_congr (hname : objectName es' = objectName es)
    (hentry : containerEntry (.map es') container = containerEntry (.map es) container) :
    target (.map es') container resource = target (.map es) container resource := by
  have hentries (es : List (Document × Document)) : entries (.map es) = .ok es := rfl
  have hmissing : target.missing (.map es') container resource =
      target.missing (.map es) container resource := by
    simp only [target.missing, hentries, Except.mapError, bind, Except.bind]
    rw [hname]
  unfold target
  rw [hentry, hmissing]

theorem containerEntry_behind {pre post post' : List Document} {entry : Document}
    (hname : objectName es' = objectName es) (hds : recommendations es = .ok (pre ++ entry :: post))
    (hds' : recommendations es' = .ok (pre ++ entry :: post')) (hfor : isFor container entry = true) :
    containerEntry (.map es') container = containerEntry (.map es) container := by
  cases hown : objectName es with
  | error m => rw [containerEntry_of_error hown, containerEntry_of_error (hname.trans hown)]
  | ok name =>
    obtain ⟨result, hresult, hfind⟩ := findEntry_append container pre hfor
    rw [containerEntry_of hown hds, containerEntry_of (hname.trans hown) hds', hfind, hfind,
      if_neg (by simp), if_neg (by simp)]
    rcases result with m | _ | found
    · rfl
    · exact absurd rfl hresult
    · rfl

end

/-- Of two objects with one name and the same list up to an entry for the container, one target is
found or none for one reason. -/
theorem target_behind {object' : Document} {pre post post' : List Document} {entry : Document}
    (hmetadata : object'.get? "metadata" = object.get? "metadata")
    (hlist : object.at? ["status", "recommendation", "containerRecommendations"] =
      some (.list (pre ++ entry :: post)))
    (hlist' : object'.at? ["status", "recommendation", "containerRecommendations"] =
      some (.list (pre ++ entry :: post'))) (hfor : isFor container entry = true) :
    target object' container resource = target object container resource := by
  cases object with
  | map es =>
    cases object' with
    | map es' =>
      have hname : objectName es' = objectName es := by
        have hfield : Document.field? "metadata" es' = Document.field? "metadata" es := hmetadata
        rw [objectName, objectName, hfield]
      exact target_congr hname (containerEntry_behind hname (recommendations_of_listed hlist)
        (recommendations_of_listed hlist') hfor)
    | _ => cases hlist'
  | _ => cases hlist

/-! ## What a lookup shows -/

theorem NotReady.failure_eq_malformed_iff {n : NotReady} {m : Malformed} :
    n.failure = .malformed m ↔ n.isWritable = false ∧ m = .unwritable := by
  rw [failure]
  cases n.isWritable <;> simp [eq_comm]

/-- The entries of an object that can be written can be written. -/
theorem isWritable_of_listed (h : object.isWritable = true) {d : Document}
    (hd : d ∈ listing object) : d.isWritable = true := by
  unfold listing at hd
  split at hd
  next ds hds =>
    have hlist := Document.isWritable_of_at? h hds
    rw [Document.isWritable, Document.writableItems_iff] at hlist
    exact hlist d hd
  next => cases hd

theorem isWritable_of_value? (h : object.isWritable = true) {v : Document}
    (hv : value? object container resource = some v) : v.isWritable = true := by
  obtain ⟨entry, hentry, hv⟩ := Option.bind_eq_some_iff.1 hv
  exact Document.isWritable_of_at?
    (isWritable_of_listed h (List.mem_of_find?_eq_some hentry)) hv

/-- A part that stands in for a missing one can be written too. -/
theorem isWritable_getD {part : Option Document} {default : Document}
    (hpart : ∀ v, part = some v → v.isWritable = true) (hdefault : default.isWritable = true) :
    (part.getD default).isWritable = true := by
  cases part with
  | none => exact hdefault
  | some v => exact hpart v rfl

theorem unready_writable (h : object.isWritable = true) (container : String) (resource : Resource) :
    (unready object container resource).isWritable = true := by
  have hname : (ownName object).isWritable = true :=
    isWritable_getD (fun _ hv => Document.isWritable_of_at? h hv) rfl
  have hfound : (Document.list (entryNames (listing object))).isWritable = true := by
    rw [Document.isWritable, Document.writableItems_iff]
    intro name hmem
    obtain ⟨d, hd, rfl⟩ := List.mem_map.1 hmem
    exact isWritable_getD
      (fun _ hv => Document.isWritable_of_get? (isWritable_of_listed h hd) hv) rfl
  have hreason : (reasonOf object container resource).isWritable = true := by
    unfold reasonOf
    split
    · rfl
    · split
      · rfl
      · exact hfound
  rw [unready, NotReady.isWritable, hreason, hname]
  rfl

/-! ## The lookup -/

/-- What is found for a container, and what is said if nothing is found. -/
structure Lookup (object : Document) (container : String) (resource : Resource) : Prop where
  found_iff : ∀ text, target object container resource = .ok text ↔
    ∃ v, value? object container resource = some v ∧ v.isWritable = true ∧ v ≠ .null ∧
      Text.trim v.display ≠ "" ∧ text = v.display
  /-- The value that is given is shown, or else the name and the reason are. -/
  unwritable_iff : target object container resource = .error (.malformed .unwritable) ↔
    (∃ v, value? object container resource = some v ∧ v.isWritable = false) ∨
      (∀ v, value? object container resource = some v → v = .null ∨ Text.trim v.display = "") ∧
        (unready object container resource).isWritable = false
  notFound : (∀ text, target object container resource ≠ .ok text) →
    target object container resource ≠ .error (.malformed .unwritable) →
    target object container resource =
      .error (.notReady ⟨ownName object, reasonOf object container resource⟩)
  /-- In an object that can be written nothing else goes wrong. -/
  writable : object.isWritable = true →
    (∀ v, value? object container resource = some v → v.isWritable = true) ∧
      target object container resource ≠ .error (.malformed .unwritable)
  /-- What a cluster sends can be written. -/
  received : ∀ s, Document.Json.read? s = some object → object.isWritable = true
  /-- Behind the first entry for the container the list may go on in any way. -/
  behind : ∀ pre entry post, isFor container entry = true →
    object.at? ["status", "recommendation", "containerRecommendations"] =
      some (.list (pre ++ entry :: post)) →
    ∀ object' post', object'.get? "metadata" = object.get? "metadata" →
      object'.at? ["status", "recommendation", "containerRecommendations"] =
        some (.list (pre ++ entry :: post')) →
      target object' container resource = target object container resource

theorem target_ok_iff (h : Shaped object) {text : String} :
    target object container resource = .ok text ↔
      ∃ v, value? object container resource = some v ∧ v.isWritable = true ∧
        given? v = some text := by
  rw [target_eq h]
  cases value? object container resource with
  | none => simp
  | some v =>
    rw [Option.bind_some, Option.all_some]
    cases hv : v.isWritable with
    | false => simp [hv]
    | true => cases hgiven : given? v <;> simp [hv, hgiven]

theorem target_unwritable_iff (h : Shaped object) :
    target object container resource = .error (.malformed .unwritable) ↔
      (∃ v, value? object container resource = some v ∧ v.isWritable = false) ∨
        (∀ v, value? object container resource = some v → given? v = none) ∧
          (unready object container resource).isWritable = false := by
  rw [target_eq h]
  cases value? object container resource with
  | none => simp [NotReady.failure_eq_malformed_iff]
  | some v =>
    rw [Option.bind_some, Option.all_some]
    cases hv : v.isWritable with
    | false => simp [hv]
    | true => cases hgiven : given? v <;> simp [hv, hgiven, NotReady.failure_eq_malformed_iff]

/-- A lookup of a resource has one of three ends. -/
theorem target_cases (h : Shaped object) (container : String) (resource : Resource) :
    (∃ text, target object container resource = .ok text ∧
        (value? object container resource).bind given? = some text) ∨
      (target object container resource = .error (.notReady (unready object container resource)) ∧
        (value? object container resource).bind given? = none) ∨
      target object container resource = .error (.malformed .unwritable) := by
  rw [target_eq h]
  split
  · split
    next text hgiven => exact .inl ⟨text, rfl, hgiven⟩
    next hgiven =>
      rw [NotReady.failure]
      split
      · exact .inr (.inl ⟨rfl, hgiven⟩)
      · exact .inr (.inr rfl)
  · exact .inr (.inr rfl)

theorem target_writable (h : Shaped object) (hwritable : object.isWritable = true) :
    target object container resource ≠ .error (.malformed .unwritable) := by
  rw [Ne, target_unwritable_iff h]
  rintro (⟨v, hv, hunwritable⟩ | ⟨-, hunwritable⟩)
  · rw [isWritable_of_value? hwritable hv] at hunwritable
    cases hunwritable
  · rw [unready_writable hwritable] at hunwritable
    cases hunwritable

/-- A target is the value that the first entry for the container gives, unless that is null or
blank; where there is none it is not ready. Nothing else goes wrong, unless what is to be shown
cannot be written. -/
theorem target_lookup (h : Shaped object) (container : String) (resource : Resource) :
    Lookup object container resource where
  found_iff := by
    intro text
    simp only [target_ok_iff h, given?_eq_some_iff]
  unwritable_iff := by
    simp only [target_unwritable_iff h, given?_eq_none_iff]
  notFound := by
    intro hnone hshown
    rcases target_cases h container resource with ⟨text, hok, -⟩ | ⟨hnotReady, -⟩ | hunwritable
    · exact absurd hok (hnone text)
    · exact hnotReady
    · exact absurd hunwritable hshown
  writable := fun hwritable =>
    ⟨fun _ hv => isWritable_of_value? hwritable hv, target_writable h hwritable⟩
  received := fun _ => Document.Json.isWritable_of_read?
  behind := fun _ _ _ hfor hlist _ _ hmetadata hlist' =>
    target_behind hmetadata hlist hlist' hfor

end

/-- An autoscaler whose first entry for the flow has the given target, with some more entries. -/
def overshadowed (target : Document) (more : List Document) : Document :=
  .record [("metadata", .record [("name", .text "daily")]),
    ("status", .record [("recommendation", .record [("containerRecommendations",
      .list (.record [("containerName", .text "flow"), ("target", target)] :: more))])])]

theorem overshadowed_shaped {target : Document} {more : List Document}
    (htarget : IsPart (some target))
    (hmore : ∀ d ∈ more, (∃ es, d = .map es) ∧ IsPart (d.get? "target")) :
    Shaped (overshadowed target more) := by
  have hpart (es : List (Document × Document)) : IsPart (some (.map es)) := by
    rintro _ ⟨⟩
    exact .inr ⟨es, rfl⟩
  exact {
    isMap := ⟨_, rfl⟩
    metadata := hpart _
    status := hpart _
    recommendation := hpart _
    list := by
      rintro _ ⟨⟩
      exact .inr ⟨_, rfl⟩
    entries := by
      intro d hd
      rcases List.mem_cons.1 hd with rfl | hd
      · exact ⟨⟨_, rfl⟩, htarget⟩
      · exact hmore d hd }

/-- The second entry for the flow has a target, and it is not found; nor would it matter if there
were a number in its place. A target of 4301 digits in the first one cannot be shown. -/
theorem overshadowed_lookup :
    let second : Document := .record [("containerName", .text "flow"),
      ("target", .record [("cpu", .text "2")])]
    let boundless : Document := .record [("cpu", .int (10 ^ 4300))]
    Shaped (overshadowed .null [second]) ∧
      target (overshadowed .null [second]) "flow" .cpu =
        .error (.notReady ⟨.text "daily", .missingTarget .cpu "flow"⟩) ∧
      target (overshadowed .null [.int 7]) "flow" .cpu =
        target (overshadowed .null [second]) "flow" .cpu ∧
      Shaped (overshadowed boundless [second]) ∧
      target (overshadowed boundless [second]) "flow" .cpu = .error (.malformed .unwritable) := by
  intro second boundless
  have hpart (es : List (Document × Document)) : IsPart (some (.map es)) := by
    rintro _ ⟨⟩
    exact .inr ⟨es, rfl⟩
  have hmore : ∀ d ∈ [second], (∃ es, d = .map es) ∧ IsPart (d.get? "target") := by
    intro d hd
    obtain rfl := List.mem_singleton.1 hd
    exact ⟨⟨_, rfl⟩, hpart _⟩
  have hnull : Shaped (overshadowed .null [second]) := by
    refine overshadowed_shaped ?_ hmore
    rintro _ ⟨⟩
    exact .inl rfl
  have hboundless : Shaped (overshadowed boundless [second]) :=
    overshadowed_shaped (hpart _) hmore
  have hlookup := target_lookup hnull "flow" .cpu
  refine ⟨hnull, ?_, hlookup.behind [] _ [second] rfl rfl _ [.int 7] rfl rfl, hboundless, ?_⟩
  · refine hlookup.notFound (fun text htext => ?_) (hlookup.writable rfl).2
    obtain ⟨v, hv, -⟩ := (hlookup.found_iff text).1 htext
    cases hv
  · exact (target_lookup hboundless "flow" .cpu).unwritable_iff.2
      (.inl ⟨.int (10 ^ 4300), rfl, by decide +kernel⟩)

end Autoscaler

end FlowWarden
