import FlowWarden.Document.Literal
import FlowWarden.Text.Blank
/-!
# Reading an autoscaler's target

An autoscaler object lists a recommendation for each container of a flow. `target` finds the
first entry for a container and reads one resource of its target. Until the autoscaler has seen
enough usage any level of the object may be missing or empty; the target is not ready then. The
object is malformed only where a level holds something of another kind, or where a value that is
to be shown cannot be written. What was read from a cluster can be written.
-/

namespace FlowWarden.Autoscaler

/-- What is wrong with an object: a level of it is of another kind, or an integer in it has too many
digits to be shown. -/
inductive Malformed
  | notAMap
  | notAList
  | unwritable
deriving DecidableEq, Repr

inductive Resource
  | cpu
  | memory
deriving DecidableEq, Repr

def Resource.key : Resource → String
  | .cpu => "cpu"
  | .memory => "memory"

/-- Why there is no target yet. -/
inductive Reason
  | noRecommendations
  | noEntry (container : String) (found : List Document)
  | missingTarget (resource : Resource) (container : String)

def Reason.message : Reason → String
  | .noRecommendations => "no container recommendations"
  | .noEntry container found =>
    "no recommendation for container " ++ container ++ " (found " ++
      (Document.list found).literal ++ ")"
  | .missingTarget resource container =>
    "missing target " ++ resource.key ++ " for container " ++ container

/-- Whether a reason can be put into words. -/
def Reason.isWritable : Reason → Bool
  | .noEntry _ found => (Document.list found).isWritable
  | _ => true

/-- An object without a target, under the name that it gives itself. -/
structure NotReady where
  name : Document
  reason : Reason

def NotReady.message (n : NotReady) : String :=
  "Recommendation for VPA " ++ n.name.display ++ " not ready: " ++ n.reason.message

def NotReady.isWritable (n : NotReady) : Bool :=
  n.reason.isWritable && n.name.isWritable

/-- Why no target could be read. -/
inductive LookupFailure
  | notReady (n : NotReady)
  | malformed (m : Malformed)

/-- The failure for an object without a target, whose message shows its name and the reason. -/
def NotReady.failure (n : NotReady) : LookupFailure :=
  if n.isWritable then .notReady n else .malformed .unwritable

def entries : Document → Except Malformed (List (Document × Document))
  | .map es => .ok es
  | _ => .error .notAMap

/-- The entries of a level that may be missing or empty. -/
def level (d : Option Document) : Except Malformed (List (Document × Document)) :=
  match d with
  | none => .ok []
  | some d => if d.isEmpty then .ok [] else entries d

/-- The items of a list. A text counts as the list of its characters, a map as that of its
keys. -/
def items : Document → Except Malformed (List Document)
  | .list ds => .ok ds
  | .text s => .ok (s.toList.map fun c => .text (String.singleton c))
  | .map es => .ok (es.map Prod.fst)
  | _ => .error .notAList

/-- The name that an object gives itself, empty if it gives none. -/
def objectName (object : List (Document × Document)) : Except Malformed Document := do
  let metadata ← level (Document.field? "metadata" object)
  pure ((Document.field? "name" metadata).getD (.text ""))

/-- The recommendations of an object, empty if it has none. -/
def recommendations (object : List (Document × Document)) : Except Malformed (List Document) := do
  let status ← level (Document.field? "status" object)
  let recommendation ← level (Document.field? "recommendation" status)
  match Document.field? "containerRecommendations" recommendation with
  | none => pure []
  | some d => if d.isEmpty then pure [] else items d

def entryName (entry : List (Document × Document)) : Document :=
  (Document.field? "containerName" entry).getD .null

/-- The first entry for a container, if there is one. Only the entries up to it are looked at. -/
def findEntry (container : String) :
    List Document → Except Malformed (Option (List (Document × Document)))
  | [] => .ok none
  | d :: ds =>
    match entries d with
    | .error m => .error m
    | .ok entry => if (entryName entry).isText container then .ok (some entry)
      else findEntry container ds

def entryNames (ds : List Document) : List Document :=
  ds.map fun d => (d.get? "containerName").getD .null

def containerEntry (object : Document) (container : String) :
    Except LookupFailure (List (Document × Document)) := do
  let object ← (entries object).mapError .malformed
  let name ← (objectName object).mapError .malformed
  let ds ← (recommendations object).mapError .malformed
  if ds.isEmpty then throw (NotReady.failure ⟨name, .noRecommendations⟩)
  match ← (findEntry container ds).mapError .malformed with
  | some entry => pure entry
  | none => throw (NotReady.failure ⟨name, .noEntry container (entryNames ds)⟩)

/-- The target of a resource for a container, as the text that the object gives for it. -/
def target (object : Document) (container : String) (resource : Resource) :
    Except LookupFailure String := do
  let entry ← containerEntry object container
  let values ← (level (Document.field? "target" entry)).mapError .malformed
  let value := (Document.field? resource.key values).getD .null
  match value with
  | .null => missing
  | value =>
    if !value.isWritable then throw (.malformed .unwritable)
    else if Text.isBlankText value.display then missing
    else pure value.display
where
  missing : Except LookupFailure String := do
    let object ← (entries object).mapError .malformed
    let name ← (objectName object).mapError .malformed
    throw (NotReady.failure ⟨name, .missingTarget resource container⟩)

end FlowWarden.Autoscaler
