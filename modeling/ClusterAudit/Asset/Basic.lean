import ClusterAudit.Asset.Placement
import ClusterAudit.Asset.PodSecurity

/-!
# Assets

An asset is what a detector looks at: an object read from a manifest, a node paired with a pod, or a
path from a binding through its role and a pod to a node.  Every asset has a kind and a name.
-/

namespace ClusterAudit

open Manifest

/-- A node and a pod that might run on it; either may be missing. -/
structure SchedulingPair where
  node : Option Node
  pod : Option Pod
deriving DecidableEq, Repr, Inhabited

/-- A path along which a pod, and so its node, has the rights of a binding. -/
structure EscalationDependency where
  binding : RoleBinding
  /-- The role of the binding, if it is known. -/
  role : Option Role
  serviceAccount : String
  node : Node
  pod : Pod
  /-- The rules of the role that grant escalating rights. -/
  escalatingRules : List PolicyRule
deriving DecidableEq, Repr, Inhabited

inductive Asset where
  | serviceAccount (account : ServiceAccount)
  | node (node : Node)
  | pod (pod : Pod)
  | role (role : Role)
  | binding (binding : RoleBinding)
  | podSecurityPolicy (policy : PodSecurityPolicy)
  | schedulingPair (pair : SchedulingPair)
  | escalationDependency (dependency : EscalationDependency)
deriving DecidableEq, Repr, Inhabited

/-- The text of a name that may be missing. -/
def displayName (name : Option Value) : String :=
  (name.getD .null).spelling

def SchedulingPair.assetName (pair : SchedulingPair) : String :=
  "Node: " ++ displayName (pair.node.map (·.name)) ++
    ", Pod: " ++ displayName (pair.pod.map (·.assetName))

def EscalationDependency.assetName (dependency : EscalationDependency) : String :=
  "Node: " ++ dependency.node.name.spelling ++ ", Pod: " ++ dependency.pod.assetName.spelling ++
    ", Service Account: " ++ dependency.serviceAccount

namespace Asset

def kind : Asset → AssetKind
  | serviceAccount _ => .serviceAccount
  | node _ => .node
  | pod _ => .pod
  | role r => r.kind
  | binding b => b.kind
  | podSecurityPolicy _ => .podSecurityPolicy
  | schedulingPair _ => .schedulingPair
  | escalationDependency _ => .escalationDependency

def name : Asset → Value
  | serviceAccount account => account.name
  | node n => n.name
  | pod p => p.assetName
  | role r => r.assetName
  | binding b => b.assetName
  | podSecurityPolicy policy => policy.name
  | schedulingPair pair => .text pair.assetName
  | escalationDependency dependency => .text dependency.assetName

def nameParts : Asset → List Value
  | serviceAccount _ | node _ | podSecurityPolicy _ => []
  | pod p => p.nameParts
  | role r => r.nameParts
  | binding b => b.nameParts
  | schedulingPair pair =>
    (pair.node.map (·.name)).toList ++ (pair.pod.map (·.nameParts)).getD []
  | escalationDependency dependency => dependency.node.name :: dependency.pod.nameParts

/-- The name of an asset, if it is written. -/
def writtenName (asset : Asset) : Except Fault Value :=
  Value.written asset.nameParts asset.name

/-- The node, if the asset is one. -/
def asNode? : Asset → Option Node
  | node n => some n
  | _ => none

/-- The pod, if the asset is one. -/
def asPod? : Asset → Option Pod
  | pod p => some p
  | _ => none

/-- The role, if the asset is one. -/
def asRole? : Asset → Option Role
  | role r => some r
  | _ => none

/-- The binding, if the asset is one. -/
def asBinding? : Asset → Option RoleBinding
  | binding b => some b
  | _ => none

def ofManifest (kind : AssetKind) (doc : Value) : Except Fault Asset :=
  match kind with
  | .serviceAccount => serviceAccount <$> ServiceAccount.ofManifest doc
  | .node => node <$> Node.ofManifest doc
  | .pod => pod <$> Pod.ofManifest doc
  | .role => role <$> Role.ofManifest .namespaced doc
  | .roleBinding => binding <$> RoleBinding.ofManifest .namespaced doc
  | .clusterRole => role <$> Role.ofManifest .clusterWide doc
  | .clusterRoleBinding => binding <$> RoleBinding.ofManifest .clusterWide doc
  | .podSecurityPolicy => podSecurityPolicy <$> PodSecurityPolicy.ofManifest doc
  | .schedulingPair => .error (.derivedNotParsed .schedulingPair)
  | .escalationDependency => .error (.derivedNotParsed .escalationDependency)

end Asset

end ClusterAudit
