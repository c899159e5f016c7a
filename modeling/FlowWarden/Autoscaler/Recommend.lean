import FlowWarden.Autoscaler.Store
import FlowWarden.Quantity.Format
/-!
# Recommending resources

The first launch of a workload creates its autoscaler and gets the flow's maxima. Later launches
get the autoscaler's target, scaled by the operator's headroom factors and capped at the same
maxima.

A recommendation makes at most two requests: it reads the autoscaler, and creates it if there is
none. `Progress` says where it stands between them, `advance` makes the next request, and
`recommend` makes all of them; several recommendations may take turns at the same store.
-/

namespace FlowWarden.Autoscaler

/-- What to do while the autoscaler has no target. -/
inductive NotReadyPolicy
  | fail
  | useMaximum
deriving DecidableEq, Repr

/-- Where recommended amounts come from. -/
inductive Origin
  | recommender
  | maximum
deriving DecidableEq, Repr

def Origin.name : Origin → String
  | .recommender => "vpa_recommender"
  | .maximum => "max_allowed"

/-- The amounts that a flow container is to request. -/
structure Recommendation where
  cpu : Document
  memory : Document
  origin : Origin

def Recommendation.toDocument (r : Recommendation) : Document :=
  .record [("cpu", r.cpu), ("memory", r.memory), ("source", .text r.origin.name)]

/-- Everything that a recommendation depends on besides the cluster. Messages show the maxima, which
are taken to be writable. -/
structure Request where
  space : String
  labelName : String
  name : String
  container : String
  cpuFactor : Document
  memoryFactor : Document
  maxCpu : Document
  maxMemory : Document
  policy : NotReadyPolicy
  now : Moment

/-- Why there is no recommendation. The last two causes are not foreseen by the callers. -/
inductive Problem
  | notReady (n : NotReady)
  | invalidMaximum (maxCpu maxMemory : Document) (problem : Quantity.Problem)
  | unreadable (key : String) (failure : Cluster.Failure)
  | notCreated (key : String) (failure : Cluster.Failure)
  | invalidTarget (name : String) (problem : Quantity.Problem)
  | arithmetic (fault : Decimal.Fault)
  | malformed (m : Malformed)

/-- A problem in words, empty for those that are not foreseen. -/
def Problem.message : Problem → String
  | .notReady n => n.message
  | .invalidMaximum maxCpu maxMemory p =>
    "Invalid maximum quantities " ++ maxCpu.display ++ "/" ++ maxMemory.display ++ ": " ++ p.message
  | .unreadable key f => "Failed to read VPA " ++ key ++ ": " ++ f.message
  | .notCreated key f => "Failed to create VPA " ++ key ++ ": " ++ f.message
  | .invalidTarget name p => "Invalid recommendation from VPA " ++ name ++ ": " ++ p.message
  | .arithmetic _ => ""
  | .malformed _ => ""

abbrev Outcome := Except Problem Recommendation

namespace Request

/-- The request to a recommender with a policy of its own, which a call may replace by another. -/
def under (r : Request) (own : NotReadyPolicy) (call : Option NotReadyPolicy) : Request :=
  { r with policy := call.getD own }

def key (r : Request) : String :=
  Store.key r.space r.name

/-- The flow's maxima, as they were given. -/
def maximum (r : Request) : Recommendation :=
  ⟨r.maxCpu, r.maxMemory, .maximum⟩

def maximumText (r : Request) : String :=
  r.maxCpu.display ++ "/" ++ r.maxMemory.display

/-- The autoscaler that the first launch creates. -/
def blueprint (r : Request) : Blueprint :=
  ⟨r.labelName, r.name, r.container, r.maxCpu, r.maxMemory, r.now⟩

/-- The maxima in base units. -/
def maxSizes (r : Request) : Except Problem (Decimal × Decimal) :=
  match Quantity.parse r.maxCpu, Quantity.parse r.maxMemory with
  | .error p, _ => .error (.invalidMaximum r.maxCpu r.maxMemory p)
  | .ok _, .error p => .error (.invalidMaximum r.maxCpu r.maxMemory p)
  | .ok cpu, .ok memory => .ok (cpu, memory)

def targets (r : Request) (object : Document) : Except LookupFailure (String × String) := do
  let cpu ← target object r.container .cpu
  let memory ← target object r.container .memory
  pure (cpu, memory)

def scaleProblem (r : Request) : Quantity.Failure → Problem
  | .invalid p => .invalidTarget r.name p
  | .arithmetic f => .arithmetic f

/-- The scaled targets in millicores and bytes. -/
def scaledTargets (r : Request) (cpu memory : String) : Except Problem (Int × Int) := do
  let millicores ← (Quantity.scaleCpu (.text cpu) r.cpuFactor).mapError r.scaleProblem
  let bytes ← (Quantity.scaleMemory (.text memory) r.memoryFactor).mapError r.scaleProblem
  pure (millicores, bytes)

/-- Whether an amount stays below a limit. -/
def isBelow (n : Int) (limit : Decimal) : Except Problem Bool :=
  match (Decimal.ofInt n).lt? limit with
  | some b => .ok b
  | none => .error (.arithmetic .invalidOperation)

/-- The processor amount: the scaled target, or the maximum where it reaches that. -/
def capCpu (r : Request) (millicores : Int) (maxCores : Decimal) : Except Problem Document := do
  let limit ← (maxCores.mul (.ofInt Quantity.millisPerCore)).mapError .arithmetic
  let below ← isBelow millicores limit
  pure (if below then .text (Quantity.formatCpu millicores) else r.maxCpu)

/-- The memory amount: the scaled target, or the maximum where it reaches that. -/
def capMemory (r : Request) (bytes : Int) (maxBytes : Decimal) : Except Problem Document := do
  let below ← isBelow bytes maxBytes
  pure (if below then .text (Quantity.formatMemory bytes) else r.maxMemory)

def capped (r : Request) (millicores bytes : Int) (limits : Decimal × Decimal) : Outcome := do
  let cpu ← r.capCpu millicores limits.1
  let memory ← r.capMemory bytes limits.2
  pure ⟨cpu, memory, .recommender⟩

/-- The recommendation from the targets of an autoscaler. -/
def fromTargets (r : Request) (limits : Decimal × Decimal) (cpu memory : String) (s : Store) :
    Outcome × Store :=
  match r.scaledTargets cpu memory with
  | .error p => (.error p, s)
  | .ok (millicores, bytes) =>
    let s := s.noteLog Log.info .recommender
      ("Raw recommendation quantities: " ++ cpu ++ ", " ++ memory)
    let s := s.noteLog Log.info .recommender
      ("Converted recommendation quantities: " ++ Quantity.formatCpu millicores ++ ", " ++
        Quantity.formatMemory bytes)
    (r.capped millicores bytes limits, s)

/-- The recommendation from an existing autoscaler. -/
def fromObject (r : Request) (limits : Decimal × Decimal) (object : Document) (s : Store) :
    Outcome × Store :=
  match r.targets object with
  | .ok (cpu, memory) => r.fromTargets limits cpu memory s
  | .error (.malformed m) => (.error (.malformed m), s)
  | .error (.notReady n) =>
    let s := s.noteLog Log.warning .recommender ("⚠️ " ++ n.message)
    match r.policy with
    | .useMaximum => (.ok r.maximum, s)
    | .fail => (.error (.notReady n), s)

/-- The recommendation of a first launch. Another launch may have created the autoscaler in the
meantime; it has no target yet either. -/
def fromCreation (r : Request) (s : Store) : Outcome × Store :=
  let say := fun (what : String) (s : Store) => s.noteLog Log.info .recommender
    ("VPA " ++ r.key ++ what ++ r.maximumText)
  match s.createAs r.space r.name r.blueprint.manifest with
  | (.ok (), s) => (.ok r.maximum, say " created, using max allowed " s)
  | (.error (.alreadyExists _), s) =>
    (.ok r.maximum, say " was created concurrently, using max allowed " s)
  | (.error f, s) => (.error (.notCreated r.key f), s)

/-- Where a recommendation stands between its requests. -/
inductive Progress
  | reading (limits : Decimal × Decimal)
  | creating
  | done (outcome : Outcome)

/-- A recommendation before its first request. It makes none if a maximum cannot be read. -/
def start (r : Request) : Progress :=
  match r.maxSizes with
  | .ok limits => .reading limits
  | .error p => .done (.error p)

def advance (r : Request) : Progress → Store → Progress × Store
  | .reading limits, s =>
    match s.read r.space r.name with
    | (.error f, s) => (.done (.error (.unreadable r.key f)), s)
    | (.ok none, s) => (.creating, s)
    | (.ok (some object), s) =>
      let (outcome, s) := r.fromObject limits object s
      (.done outcome, s)
  | .creating, s =>
    let (outcome, s) := r.fromCreation s
    (.done outcome, s)
  | .done outcome, s => (.done outcome, s)

/-- A whole recommendation, from one state of the cluster to the next. -/
def recommend (r : Request) (s : Store) : Outcome × Store :=
  match r.start with
  | .done outcome => (outcome, s)
  | .creating => r.fromCreation s
  | .reading limits =>
    match s.read r.space r.name with
    | (.error f, s) => (.error (.unreadable r.key f), s)
    | (.ok none, s) => r.fromCreation s
    | (.ok (some object), s) => r.fromObject limits object s

/-- A finished recommendation in two steps is a whole one. -/
theorem recommend_eq_advance_advance (r : Request) (s : Store) :
    (let (p, s₁) := r.advance r.start s; r.advance p s₁) =
      (.done (r.recommend s).1, (r.recommend s).2) := by
  unfold recommend
  cases hp : r.start with
  | done outcome => simp [advance]
  | creating => simp [advance]
  | reading limits =>
    simp only [advance]
    rcases hs : s.read r.space r.name with ⟨_ | _ | object, s₁⟩ <;> simp

end Request

end FlowWarden.Autoscaler
