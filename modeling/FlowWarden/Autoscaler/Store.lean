import FlowWarden.Autoscaler.Manifest
import FlowWarden.Autoscaler.Target
import FlowWarden.Cluster.Failure
import FlowWarden.Keyed
import FlowWarden.Log.Record
/-!
# The autoscaler objects of a cluster

`Store` holds the objects of a cluster under `namespace/name`, the faults that its interface is
to show, and what has been asked of it. `read` and `create` are the two requests that the
recommender makes: an object that does not exist is no failure of a read, and an existing object
makes a creation fail with `Failure.alreadyExists`.
-/

namespace FlowWarden.Autoscaler

open Cluster (Failure)

inductive Call
  | get (space name : String)
  | create (space : String) (body : Document)

/-- The objects of a cluster and its interface. -/
structure Store where
  objects : List (String × Document) := []
  /-- The failure of every read. -/
  getFault : Option Failure := none
  /-- The failure of every creation. -/
  createFault : Option Failure := none
  calls : List Call := []
  log : List Log.Record := []

namespace Store

def key (space name : String) : String :=
  space ++ "/" ++ name

def find? (s : Store) (key : String) : Option Document :=
  Keyed.find? key s.objects

/-- Whether something other than null lies under a key. -/
def holds (s : Store) (key : String) : Bool :=
  match s.find? key with
  | none | some .null => false
  | some _ => true

def put (s : Store) (key : String) (object : Document) : Store :=
  { s with objects := Keyed.insert key object s.objects }

def erase (s : Store) (key : String) : Store :=
  { s with objects := s.objects.filter fun o => o.1 != key }

def noteCall (s : Store) (c : Call) : Store :=
  { s with calls := s.calls ++ [c] }

def noteLog (s : Store) (level : Log.Level) (source : Log.Source) (message : String) : Store :=
  { s with log := s.log ++ [⟨level, source, message⟩] }

/-- The interface's answer to a read. -/
def answerGet (s : Store) (space name : String) : Except Failure Document :=
  match s.getFault with
  | some f => .error f
  | none =>
    match s.find? (key space name) with
    | some object => .ok object
    | none => .error (.status (some Cluster.notFound) (some "Not Found"))

/-- The interface's answer to a creation under a name, and the objects afterwards. -/
def answerCreate (s : Store) (space name : String) (body : Document) : Except Failure Store :=
  match s.createFault with
  | some f => .error f
  | none =>
    if s.holds (key space name) then .error (.status (some Cluster.conflict) (some "Conflict"))
    else .ok (s.put (key space name) body)

/-- Reads an object. `none` stands for one that does not exist or is null. -/
def read (space name : String) (s : Store) : Except Failure (Option Document) × Store :=
  let answer := match s.answerGet space name with
    | .ok .null => .ok none
    | .ok object => .ok (some object)
    | .error f => if f.hasStatus Cluster.notFound then .ok none else .error f
  (answer, s.noteCall (.get space name))

/-- Creates an object under a name. -/
def createAs (space name : String) (body : Document) (s : Store) : Except Failure Unit × Store :=
  let s := s.noteCall (.create space body)
  match s.answerCreate space name body with
  | .ok s => (.ok (), s.noteLog Log.info .cluster ("✅ Created VPA " ++ key space name))
  | .error f =>
    if f.hasStatus Cluster.conflict then
      (.error (.alreadyExists ("VPA " ++ key space name ++ " already exists")), s)
    else (.error f, s)

end Store

/-- The name under which a body asks to be created, empty if it has none. It is taken to be
writable. -/
def bodyName (body : Document) : Except Malformed String := do
  let es ← entries body
  match Document.field? "metadata" es with
  | none => pure ""
  | some metadata =>
    let ms ← entries metadata
    pure (((Document.field? "name" ms).getD (.text "")).display)

/-- Creates an object under the name in its body. -/
def Store.create (space : String) (body : Document) (s : Store) :
    Except Malformed (Except Failure Unit × Store) :=
  (bodyName body).map fun name => s.createAs space name body

end FlowWarden.Autoscaler
