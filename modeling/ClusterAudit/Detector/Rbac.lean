import ClusterAudit.Detector.Basic
import ClusterAudit.Escalation.Rule

/-!
# Detectors of access control

Detectors of roles give every offending rule as a piece of evidence of its own.  The report on
escalation walks the path of a dependency from the node through the pod, its containers and mounts to
the service account and what it may do.
-/

namespace ClusterAudit.Detector

open Manifest

def clusterAdmin : String := "cluster-admin"

def roleKinds : List AssetKind := [.clusterRole, .role]

def serviceAccountDocs : String :=
  "https://kubernetes.io/docs/tasks/configure-pod-container/configure-service-account/"

def rbacDocs : String := "https://kubernetes.io/docs/admin/authorization/rbac"

def offendingRules (inClass : PolicyRule → Bool) (role : Role) : List Detail :=
  (role.rules.filter inClass).map fun rule ↦ .ofText "Rule" rule.describe

/-- Who gets a role, by the identity or at least the name. -/
def subjectEvidence (subject : Subject) : Except Fault Detail :=
  Value.written
    (subject.kind :: if subject.identity?.isSome then subject.identityParts else [subject.name])
    (.ofText "Subject" <|
      subject.kind.spelling ++ " " ++ subject.identity?.getD subject.name.spelling)

/-- The reference to the role with all rights, and who gets it. -/
def clusterAdminEvidence (binding : RoleBinding) : Except Fault (List Detail) := do
  if binding.roleRef.name.same (.text clusterAdmin) then
    return .ofText "RoleRef" clusterAdmin :: (← binding.subjects.mapM subjectEvidence)
  else return []

def automountEvidence (account : ServiceAccount) : List Detail :=
  if account.automountToken then [.ofText "AutomountServiceAccountToken" "true"] else []

def mountEvidence (mount : VolumeMount) : Except Fault Detail := do
  return .ofText "VolumeMount" <|
    (← mount.name.display) ++ ", mountPath: " ++ (← mount.mountPath.display) ++
      (if mount.readOnly then "[ro]" else "[rw]")

def containerEvidence (container : Container) : Except Fault (List Detail) := do
  let name ← container.name.display
  let image ← container.image.display
  return .ofText "Container" (name ++ ", image: " ++ image) ::
    (← container.volumeMounts.mapM mountEvidence)

def rightsEvidence (rule : PolicyRule) : Detail :=
  .ofText "does" <|
    Manifest.bracketed rule.verbs ++ " on " ++ Manifest.bracketed rule.groupResources

/-- The path of a dependency whose role is known and grants escalating rights. -/
def escalationEvidence (dependency : EscalationDependency) : Except Fault (List Detail) := do
  if dependency.role.isNone || dependency.escalatingRules.isEmpty then return []
  else
    let pod := dependency.pod
    let podText ← Value.written (pod.nameParts ++ [pod.podIP])
      (pod.assetName.spelling ++ " " ++ pod.podIP.spelling)
    let containers ← pod.containers.mapM containerEvidence
    return [⟨"Node", dependency.node.name⟩, .ofText "Pod" podText] ++ containers.flatten ++
      [.ofText "Service Account" dependency.serviceAccount] ++
      dependency.escalatingRules.map rightsEvidence

def ofRole (evidence : Role → List Detail) (asset : Asset) : Except Fault (List Detail) :=
  match asset with
  | .role role => .ok (evidence role)
  | _ => .ok []

def clusterAdminRoleUsed : Detector where
  name := "CLUSTER_ADMIN_ROLE_USED"
  kinds := [.clusterRoleBinding]
  check := fun asset ↦
    match asset with
    | .binding binding => clusterAdminEvidence binding
    | _ => .ok []
  explanation :=
    "Kubernetes provides a set of default roles where RBAC is used. Some of these roles such as " ++
      "cluster-admin provide wide-ranging privileges which should only be applied where " ++
      "absolutely necessary. Roles such as cluster-admin allow super-user access to perform any " ++
      "action on any resource. When used in a ClusterRoleBinding, it gives full control over " ++
      "every resource in the cluster and in all namespaces. When used in a RoleBinding, it gives " ++
      "full control over every resource in the RoleBinding's namespace, including the namespace " ++
      "itself."
  recommendation :=
    "Identify all ClusterRoleBindings to the cluster-admin role. Check if they are used and if " ++
      "they need this role or if they could use a role with fewer privileges. Where possible, " ++
      "first bind users to a lower privileged role and then remove the clusterrolebinding to the " ++
      "cluster-admin role. Care should be taken before removing any clusterrolebindings from the " ++
      "environment to ensure they were not required for operation of the cluster. Specifically, " ++
      "modifications should not be made to clusterrolebindings with the system: prefix as they " ++
      "are required for the operation of system components."
  urls := ["https://kubernetes.io/docs/admin/authorization/rbac/#user-facing-roles"]

def accessToSecrets : Detector where
  name := "ACCESS_TO_SECRETS"
  kinds := roleKinds
  check := ofRole (offendingRules PolicyRule.grantsSecretAccess)
  explanation :=
    "The Kubernetes API stores secrets, which may be service account tokens for the Kubernetes " ++
      "API or credentials used by workloads in the cluster. Access to these secrets should be " ++
      "restricted to the smallest possible group of users to reduce the risk of privilege " ++
      "escalation. Inappropriate access to secrets stored within the Kubernetes cluster can allow " ++
      "for an attacker to gain additional access to the Kubernetes cluster or external resources " ++
      "whose credentials are stored as secrets."
  recommendation :=
    "Review the users who have get, list or watch access to secrets objects in the Kubernetes " ++
      "API. Where possible, remove access. Care should be taken not to remove access to secrets " ++
      "to system components which require this for their operation."
  urls := ["https://kubernetes.io/docs/concepts/configuration/secret/"]

def wildcardUsed : Detector where
  name := "WILDCARD_USED"
  kinds := roleKinds
  check := ofRole (offendingRules PolicyRule.usesWildcard)
  explanation :=
    "Kubernetes Roles and ClusterRoles provide access to resources based on sets of objects and " ++
      "actions that can be taken on those objects. It is possible to set either of these to be " ++
      "the wildcard \"*\" which matches all items. Use of wildcards is not optimal from a " ++
      "security perspective as it may allow for inadvertent access to be granted when new " ++
      "resources are added to the Kubernetes API either as CRDs or in later versions of the " ++
      "product. The principle of least privilege recommends that users are provided only the " ++
      "access required for their role and nothing more. The use of wildcard rights grants is " ++
      "likely to provide excessive rights to the Kubernetes API."
  recommendation :=
    "Where possible replace any use of wildcards in clusterroles and roles with specific " ++
      "objects or actions."
  urls := [rbacDocs]

def createPodsAllowed : Detector where
  name := "CREATE_PODS_ALLOWED"
  kinds := roleKinds
  check := ofRole (offendingRules PolicyRule.allowsPodCreation)
  explanation :=
    "The ability to create pods in a namespace can provide a number of opportunities for " ++
      "privilege escalation, such as assigning privileged service accounts to these pods or " ++
      "mounting hostPaths with access to sensitive data (unless Pod Security Policies are " ++
      "implemented to restrict this access). As such, access to create new pods should be " ++
      "restricted to the smallest possible group of users."
  recommendation :=
    "Review the users who have create access to pod objects in the Kubernetes API. Where " ++
      "possible, remove create access to pod objects in the cluster. Care should be taken not to " ++
      "remove access to pods to system components which require this for their operation."
  urls := [rbacDocs]

/-- Finds the service accounts whose tokens are mounted without being asked for. -/
def automountServiceAccountTokensEnabled : Detector where
  name := "AUTOMOUNT_SERVICE_ACCOUNT_TOKENS_ENABLED"
  kinds := [.serviceAccount]
  check := fun asset ↦
    match asset with
    | .serviceAccount account => .ok (automountEvidence account)
    | _ => .ok []
  explanation :=
    "Service accounts tokens should not be mounted in pods except where the workload running in " ++
      "the pod explicitly needs to communicate with the API server. Mounting service account " ++
      "tokens inside pods can provide an avenue for privilege escalation attacks where an " ++
      "attacker is able to compromise a single pod in the cluster. Avoiding mounting these tokens " ++
      "removes this attack avenue."
  recommendation :=
    "Modify the definition of pods and service accounts which do not need to mount service " ++
      "account tokens to disable it."
  urls := [serviceAccountDocs]

/-- Finds the paths from nodes to service accounts with escalating rights. -/
def escalatingResourcesDependencyReport : Detector where
  name := "ESCALATING_RESOURCES_DEPENDENCY_REPORT"
  kinds := [.escalationDependency]
  check := fun asset ↦
    match asset with
    | .escalationDependency dependency => escalationEvidence dependency
    | _ => .ok []
  explanation :=
    "The dependency report searches for a path from a Node to a Service Account with " ++
      "permissions on the Node and its resources (Pods, Containers, Volume Mounts). There can be " ++
      "security implications if the Service Account is over permissive."
  recommendation :=
    "Review on which resources the Service Account has permissions and remove the ones that are " ++
      "not completely necessary."
  urls := [serviceAccountDocs]

/-- The detectors of access control, in catalog order. -/
def rbacCatalog : List Detector :=
  [clusterAdminRoleUsed, accessToSecrets, wildcardUsed,
    createPodsAllowed,
    automountServiceAccountTokensEnabled,
    escalatingResourcesDependencyReport]

end ClusterAudit.Detector
