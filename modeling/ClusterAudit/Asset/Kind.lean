/-!
# Kinds of assets

Eight kinds of assets are read from manifests and two are derived from them: a scheduling pair joins
a node with a pod, and an escalation dependency joins a binding, its role, a pod and its node.
-/

namespace ClusterAudit

/-- The kind of an audited asset. -/
inductive AssetKind where
  | serviceAccount
  | node
  | pod
  | role
  | roleBinding
  | clusterRole
  | clusterRoleBinding
  | podSecurityPolicy
  | schedulingPair
  | escalationDependency
deriving DecidableEq, Repr, Inhabited

namespace AssetKind

def name : AssetKind → String
  | serviceAccount => "ServiceAccount"
  | node => "Node"
  | pod => "Pod"
  | role => "Role"
  | roleBinding => "RoleBinding"
  | clusterRole => "ClusterRole"
  | clusterRoleBinding => "ClusterRoleBinding"
  | podSecurityPolicy => "PodSecurityPolicy"
  | schedulingPair => "SchedulingPair"
  | escalationDependency => "EscalationDependency"

/-- Whether assets of the kind are computed from other assets. -/
def isDerived : AssetKind → Bool
  | schedulingPair => true
  | escalationDependency => true
  | _ => false

def all : List AssetKind :=
  [serviceAccount, node, pod, role, roleBinding, clusterRole, clusterRoleBinding, podSecurityPolicy,
    schedulingPair, escalationDependency]

/-- The kinds that are read from manifests. -/
def primary : List AssetKind :=
  all.filter fun kind ↦ !kind.isDerived

def ofName? (name : String) : Option AssetKind :=
  all.find? fun kind ↦ kind.name = name

/-- The kinds of a list, each once, in order of first occurrence. -/
def distinct (kinds : List AssetKind) : List AssetKind :=
  kinds.foldl (fun found kind ↦ if found.contains kind then found else found ++ [kind]) []

theorem mem_all (kind : AssetKind) : kind ∈ all := by
  cases kind <;> decide

theorem mem_primary_iff (kind : AssetKind) : kind ∈ primary ↔ kind.isDerived = false := by
  simp [primary, mem_all]

theorem ofName?_name (kind : AssetKind) : ofName? kind.name = some kind := by
  cases kind <;> decide

theorem name_of_ofName? {text : String} {kind : AssetKind} (h : ofName? text = some kind) :
    kind.name = text := by
  simpa using List.find?_some h

end AssetKind

end ClusterAudit
