import ClusterAudit.Source.Basic

/-!
# Clusters

A cluster is asked for the objects of a kind over a connection, which is made before the first
question with the user configuration or, failing that, with the configuration inside a cluster.  Pod
security policies are custom objects, which carry no kind of their own; a cluster that does not know
them has none, with a warning.
-/

namespace ClusterAudit

open Manifest

/-- The answer of a cluster to a question. -/
inductive ClusterReply where
  | objects (items : List Value)
  | refused (status reason : Value)
  | unreachable (reason : String)
deriving DecidableEq, Repr, Inhabited

/-- How a connection was authenticated. -/
inductive AuthMethod where
  | userConfiguration
  | clusterConfiguration
deriving DecidableEq, Repr

def AuthMethod.name : AuthMethod → String
  | .userConfiguration => "kubeconfig"
  | .clusterConfiguration => "in-cluster config"

/-- A cluster with the state of the connection to it. -/
structure Cluster where
  /-- The context of the user configuration, the current one if absent. -/
  context : Option String := none
  /-- Why the user configuration cannot be used, if so. -/
  userFault : Option String := none
  /-- Why the configuration inside a cluster cannot be used, if so. -/
  clusterFault : Option String := none
  /-- The answers for the kinds; kinds without an answer have no objects. -/
  replies : List (AssetKind × ClusterReply) := []
  connected : Bool := false
  /-- What was asked so far. -/
  calls : List Call := []
  /-- The warnings given so far. -/
  warnings : List String := []
deriving DecidableEq, Repr, Inhabited

namespace Cluster

def note (call : Call) : SourceM Cluster Unit :=
  modify fun cluster ↦ { cluster with calls := cluster.calls ++ [call] }

def authenticate : SourceM Cluster AuthMethod := do
  note (.userConfiguration (← get).context)
  let method ←
    match (← get).userFault with
    | none => pure AuthMethod.userConfiguration
    | some _ => do
      note .clusterConfiguration
      match (← get).clusterFault with
      | none => pure AuthMethod.clusterConfiguration
      | some reason => throw (.notAuthenticated reason)
  modify fun cluster ↦ { cluster with connected := true }
  return method

def replyFor (cluster : Cluster) (kind : AssetKind) : ClusterReply :=
  ((cluster.replies.find? fun reply ↦ reply.1 = kind).map (·.2)).getD (.objects [])

def callFor (kind : AssetKind) : Call :=
  if kind = .podSecurityPolicy then .listPolicies else .list kind

def asPolicy (item : Value) : Except Fault Value := do
  return .map (putEntry (← item.toEntries) (.text "kind") (.text AssetKind.podSecurityPolicy.name))

/-- What is said when a cluster does not know pod security policies. -/
def policiesNotServed : String :=
  "PodSecurityPolicy API is not served by this cluster, treating it as having no policies"

def list (kind : AssetKind) : SourceM Cluster (List Value) := do
  if !(← get).connected then discard authenticate
  note (callFor kind)
  match (← get).replyFor kind with
  | .objects items =>
    if kind = .podSecurityPolicy then AssetSource.ofManifests.liftExcept (items.mapM asPolicy)
    else return items
  | .refused status reason =>
    if kind = .podSecurityPolicy && status.same (.int 404) then
      modify fun cluster ↦ { cluster with warnings := cluster.warnings ++ [policiesNotServed] }
      return []
    else
      let wording ← AssetSource.ofManifests.liftExcept
        (Value.written [status, reason] (status.spelling ++ " " ++ reason.spelling))
      throw (.notFetched kind wording)
  | .unreachable reason => throw (.notFetched kind ("cluster unreachable: " ++ reason))

def source (defaultNames : AssetKind → List String) : AssetSource Cluster :=
  .ofManifests list defaultNames

end Cluster

end ClusterAudit
