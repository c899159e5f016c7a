import FlowWarden.Log.Record
/-!
# Finding the credentials for a cluster

Credentials come from a file if one is named. Otherwise those of a pod in the cluster are tried
first, and the usual file after them.
-/

namespace FlowWarden.Cluster

inductive CredentialSource
  | inCluster
  | kubeconfig (path : Option String)
deriving DecidableEq, Repr

/-- What is there to be found. -/
structure CredentialStore where
  /-- Whether the program runs in a pod of the cluster. -/
  inCluster : Bool
  /-- Why a file cannot be used, if it cannot. -/
  kubeconfigError : Option String

/-- An attempt to find credentials: whether it failed, where it looked, and what it said. -/
structure CredentialSearch where
  failure : Option String
  tried : List CredentialSource
  log : List Log.Record

/-- Looks for credentials. An empty path names no file. -/
def findCredentials (path : Option String) (c : CredentialStore) : CredentialSearch :=
  let say := fun (message : String) => (⟨Log.info, .cluster, message⟩ : Log.Record)
  match path.filter (· ≠ "") with
  | some file =>
    ⟨c.kubeconfigError, [.kubeconfig (some file)], [say ("Loading kubeconfig from: " ++ file)]⟩
  | none =>
    if c.inCluster then ⟨none, [.inCluster], [say "Using in-cluster config"]⟩
    else
      ⟨c.kubeconfigError, [.inCluster, .kubeconfig none],
        if c.kubeconfigError.isSome then [] else [say "Using default kubeconfig"]⟩

end FlowWarden.Cluster
