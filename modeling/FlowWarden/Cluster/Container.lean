import FlowWarden.Cluster.Failure
import FlowWarden.Keyed
import FlowWarden.Log.Record
/-!
# The containers of executions

An execution runs in a pod, perhaps with a service, both named by a prefix and the execution's
number. Deleting the container asks the cluster to delete them and does not wait; a resource
that is gone already is no failure. `Containers` holds the resources of a cluster, how they
answer, and what has been asked.
-/

namespace FlowWarden.Cluster

/-- The kinds of resources behind a container. -/
inductive Resource
  | pod
  | service
deriving DecidableEq, Repr

def Resource.name : Resource → String
  | .pod => "pod"
  | .service => "service"

/-- The name of a kind at the start of a sentence. -/
def Resource.title : Resource → String
  | .pod => "Pod"
  | .service => "Service"

/-- How a resource answers a request to delete it. One that does not answer is absent. -/
inductive Presence
  | present
  | failing (f : Failure)
deriving DecidableEq, Repr

/-- The resources of a cluster, and where and how containers are deleted. -/
structure Containers where
  space : String := "default"
  podPrefix : String := "fc-dep"
  deleteService : Bool := false
  pods : List (String × Presence) := []
  services : List (String × Presence) := []
  calls : List (Resource × String × String) := []
  log : List Log.Record := []

namespace Containers

def resources (c : Containers) : Resource → List (String × Presence)
  | .pod => c.pods
  | .service => c.services

def setResources (c : Containers) (r : Resource) (rs : List (String × Presence)) : Containers :=
  match r with
  | .pod => { c with pods := rs }
  | .service => { c with services := rs }

/-- The name of the resources of an execution, whose number is taken to be writable. -/
def resourceName (c : Containers) (id : Int) : String :=
  c.podPrefix ++ "-" ++ toString id

def say (c : Containers) (message : String) : Containers :=
  { c with log := c.log ++ [⟨Log.info, .cluster, message⟩] }

/-- The cluster's answer to a request to delete a resource, and the resources afterwards. -/
def answerDelete (c : Containers) (r : Resource) (name : String) : Except Failure Containers :=
  match Keyed.find? name (c.resources r) with
  | none => .error (.status (some notFound) (some "Not Found"))
  | some (.failing f) => .error f
  | some .present => .ok (c.setResources r ((c.resources r).filter fun p => p.1 != name))

/-- Deletes a resource, if it is still there. -/
def deleteResource (c : Containers) (r : Resource) (name : String) :
    Except Failure Unit × Containers :=
  let c := { c with calls := c.calls ++ [(r, name, c.space)] }
  match c.answerDelete r name with
  | .ok c =>
    (.ok (), c.say ("Requested deletion of " ++ r.name ++ " " ++ c.space ++ "/" ++ name))
  | .error f =>
    if f.hasStatus notFound then
      (.ok (), c.say (r.title ++ " " ++ c.space ++ "/" ++ name ++ " already deleted"))
    else (.error f, c)

/-- Deletes the container of an execution: the pod, and then the service if there is to be one. -/
def deleteContainer (c : Containers) (id : Int) : Except Failure Unit × Containers :=
  let name := c.resourceName id
  match c.deleteResource .pod name with
  | (.error f, c) => (.error f, c)
  | (.ok (), c) => if c.deleteService then c.deleteResource .service name else (.ok (), c)

end Containers

end FlowWarden.Cluster
