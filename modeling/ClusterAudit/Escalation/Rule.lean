import ClusterAudit.Asset.Rbac

/-!
# Rules that grant escalating rights

A rule grants its verbs on every pair of a group and a resource that it lists.  Such a pair is
written as the group and the resource joined by a slash, or as the bare resource in the core group.
A few pairs escalate whatever the verbs are; others escalate together with a verb that changes
things, and so does every pair whose last part opens a way into a running container.
-/

namespace ClusterAudit

namespace PolicyRule

/-! ## Simple classes -/

def usesWildcard (rule : PolicyRule) : Bool :=
  [rule.apiGroups, rule.resources, rule.verbs, rule.nonResourceUrls, rule.resourceNames].any
    fun values ↦ values.contains "*"

def secretReadVerbs : List String := ["get", "list", "watch"]

def grantsSecretAccess (rule : PolicyRule) : Bool :=
  rule.resources.contains "secrets" && rule.verbs.any secretReadVerbs.contains

def allowsPodCreation (rule : PolicyRule) : Bool :=
  rule.resources.contains "pods" && rule.verbs.contains "create"

/-! ## Escalation -/

def groupResource (group resource : String) : String :=
  if group = "" then resource else group ++ "/" ++ resource

/-- Every group with every resource of the rule, groups first. -/
def groupResources (rule : PolicyRule) : List String :=
  rule.apiGroups.flatMap fun group ↦ rule.resources.map (groupResource group)

/-- The resources that escalate whatever the verbs are. -/
def alwaysEscalating : List String := ["secrets", "*", "*/*"]

def escalatingVerbs : List String :=
  ["create", "edit", "delete", "proxy", "patch", "update", "*"]

/-- The subresources that open a way into a container. -/
def escalatingSubresources : List String :=
  ["exec", "attach", "portforward", "proxy"]

/-- The resources that escalate with a verb that changes things, as do all their subresources
together. -/
def sensitiveResources : List String :=
  ["apps/daemonsets", "apps/deployments", "apps/replicasets", "apps/statefulsets",
    "authentication.k8s.io/tokenrequests", "batch/jobs", "configmaps", "extensions/daemonsets",
    "extensions/deployments", "extensions/replicasets", "nodes", "pods",
    "rbac.authorization.k8s.io/clusterrolebindings", "rbac.authorization.k8s.io/clusterroles",
    "rbac.authorization.k8s.io/rolebindings", "rbac.authorization.k8s.io/roles",
    "replicationcontrollers", "serviceaccounts"]

/-- The sensitive resources, each by itself and with all its subresources. -/
def escalatingOnWrite : List String :=
  sensitiveResources.flatMap fun resource ↦ [resource, resource ++ "/*"]

/-- What follows the last slash of a resource, nothing when there is no slash. -/
def subresource (resource : String) : String :=
  if resource.toList.contains '/' then
    String.ofList (resource.toList.reverse.takeWhile (· ≠ '/')).reverse
  else ""

/-- Whether the rule grants escalating rights. -/
def isEscalating (rule : PolicyRule) : Bool :=
  rule.groupResources.any alwaysEscalating.contains ||
    rule.verbs.any escalatingVerbs.contains &&
      (rule.groupResources.any escalatingOnWrite.contains ||
        rule.groupResources.any fun resource ↦
          escalatingSubresources.contains (subresource resource))

end PolicyRule

def escalatingRules (rules : List PolicyRule) : List PolicyRule :=
  rules.filter PolicyRule.isEscalating

end ClusterAudit
