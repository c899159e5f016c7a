/-!
# Failing cluster requests

A request to the cluster fails with a status of its interface, because somebody else created the
object first, or for a reason outside the interface.
-/

namespace FlowWarden.Cluster

inductive Failure
  | status (code : Option Int) (reason : Option String)
  | alreadyExists (text : String)
  | other (text : String)
deriving DecidableEq, Repr

/-- The status of a resource that does not exist. -/
def notFound : Int := 404

/-- The status of a request to create what exists. -/
def conflict : Int := 409

def Failure.message : Failure → String
  | .status code reason =>
    "(" ++ code.elim "None" toString ++ ")\nReason: " ++ reason.getD "None" ++ "\n"
  | .alreadyExists text => text
  | .other text => text

def Failure.hasStatus (code : Int) : Failure → Bool
  | .status c _ => c == some code
  | _ => false

end FlowWarden.Cluster
