import ClusterAudit.Manifest.Access

/-!
# Access control assets

Roles grant rules, bindings give a role to subjects, and service accounts are the subjects that pods
run as.  Roles and bindings live in a namespace or span the cluster; the identity of a namespaced one
is its namespace and its name joined by a slash, so that the role a binding refers to can be found by
identity.  The parts of an identity are what has to be written for it.
-/

namespace ClusterAudit

open Manifest

/-- The metadata of a manifest, the empty map when there is none. -/
def Manifest.metadata (doc : Value) : Except Fault Value := do
  return (← doc.orEmptyMap.field "metadata").orEmptyMap

/-- The specification of a manifest, the empty map when there is none. -/
def Manifest.specification (doc : Value) : Except Fault Value := do
  return (← doc.orEmptyMap.field "spec").orEmptyMap

/-- A namespace and a name joined by a slash. -/
def qualified (ns name : Value) : String :=
  ns.spelling ++ "/" ++ name.spelling

/-- What is written in the identity of an account, which there is only with a namespace and a name. -/
def accountParts (ns name : Value) : List Value :=
  if ns = .null || name = .null then [] else [ns, name]

/-- A rule of a role: which verbs on which resources of which groups. -/
structure PolicyRule where
  apiGroups : List String := []
  resources : List String := []
  verbs : List String := []
  resourceNames : List String := []
  nonResourceUrls : List String := []
deriving DecidableEq, Repr, Inhabited

namespace PolicyRule

def ofManifest (doc : Value) : Except Fault PolicyRule := do
  let doc := doc.orEmptyMap
  return {
    apiGroups := ← doc.fieldTexts "apiGroups"
    resources := ← doc.fieldTexts "resources"
    verbs := ← doc.fieldTexts "verbs"
    resourceNames := ← doc.fieldTexts "resourceNames"
    nonResourceUrls := ← doc.fieldTexts "nonResourceURLs" }

/-- The rule in words; resource names and URLs are left out when there are none. -/
def describe (rule : PolicyRule) : String :=
  ", ".intercalate <|
    ["ApiGroups: " ++ bracketed rule.apiGroups, "Verbs: " ++ bracketed rule.verbs,
      "Resources: " ++ bracketed rule.resources] ++
    (if rule.resourceNames.isEmpty then []
      else ["Resource names: " ++ bracketed rule.resourceNames]) ++
    (if rule.nonResourceUrls.isEmpty then []
      else ["Non Resource URLs: " ++ bracketed rule.nonResourceUrls])

end PolicyRule

/-- Whether a role or a binding lives in a namespace or spans the cluster. -/
inductive RoleScope where
  | namespaced
  | clusterWide
deriving DecidableEq, Repr, Inhabited

/-- The identity of an object of a scope: qualified in a namespace, the bare name otherwise. -/
def RoleScope.identity (scope : RoleScope) (ns name : Value) : Value :=
  match scope with
  | .namespaced => .text (qualified ns name)
  | .clusterWide => name

def RoleScope.identityParts (scope : RoleScope) (ns name : Value) : List Value :=
  match scope with
  | .namespaced => [ns, name]
  | .clusterWide => []

structure Role where
  scope : RoleScope
  name : Value
  ns : Value
  rules : List PolicyRule
deriving DecidableEq, Repr, Inhabited

namespace Role

def kind (role : Role) : AssetKind :=
  match role.scope with
  | .namespaced => .role
  | .clusterWide => .clusterRole

def assetName (role : Role) : Value :=
  role.scope.identity role.ns role.name

def nameParts (role : Role) : List Value :=
  role.scope.identityParts role.ns role.name

def ofManifest (scope : RoleScope) (doc : Value) : Except Fault Role := do
  let header ← metadata doc
  return {
    scope
    name := ← header.fieldD "name" (.text "")
    ns := ← header.field "namespace"
    rules := ← (← doc.orEmptyMap.fieldElements "rules").mapM PolicyRule.ofManifest }

end Role

/-- The reference of a binding to its role. -/
structure RoleRef where
  apiGroup : Value
  kind : Value
  name : Value
deriving DecidableEq, Repr, Inhabited

/-- Someone to whom a binding gives its role. -/
structure Subject where
  kind : Value
  name : Value
  ns : Value
  apiGroup : Value
deriving DecidableEq, Repr, Inhabited

namespace Subject

def ofManifest (doc : Value) : Except Fault Subject := do
  return {
    kind := ← doc.fieldD "kind" (.text "")
    name := ← doc.field "name"
    ns := ← doc.field "namespace"
    apiGroup := ← doc.fieldD "apiGroup" (.text "") }

/-- The identity of a subject, which needs both a namespace and a name. -/
def identity? (subject : Subject) : Option String :=
  if subject.ns = .null || subject.name = .null then none
  else some (qualified subject.ns subject.name)

def identityParts (subject : Subject) : List Value :=
  accountParts subject.ns subject.name

end Subject

/-- A binding of a role to subjects. -/
structure RoleBinding where
  scope : RoleScope
  name : Value
  ns : Value
  roleRef : RoleRef
  subjects : List Subject
deriving DecidableEq, Repr, Inhabited

namespace RoleBinding

def kind (binding : RoleBinding) : AssetKind :=
  match binding.scope with
  | .namespaced => .roleBinding
  | .clusterWide => .clusterRoleBinding

def assetName (binding : RoleBinding) : Value :=
  binding.scope.identity binding.ns binding.name

def nameParts (binding : RoleBinding) : List Value :=
  binding.scope.identityParts binding.ns binding.name

/-- The identity of the role that the binding refers to, in the scope of the binding. -/
def roleRefName (binding : RoleBinding) : Value :=
  binding.scope.identity binding.ns binding.roleRef.name

def refParts (binding : RoleBinding) : List Value :=
  binding.scope.identityParts binding.ns binding.roleRef.name

def ofManifest (scope : RoleScope) (doc : Value) : Except Fault RoleBinding := do
  let header ← metadata doc
  let ref := (← doc.orEmptyMap.field "roleRef").orEmptyMap
  let subjects ← (← doc.orEmptyMap.fieldElements "subjects").mapM Subject.ofManifest
  return {
    scope
    name := ← header.fieldD "name" (.text "")
    ns := ← header.field "namespace"
    roleRef := {
      apiGroup := ← ref.fieldD "apiGroup" (.text "")
      kind := ← ref.fieldD "kind" (.text "")
      name := ← ref.fieldD "name" (.text "") }
    subjects }

end RoleBinding

/-- An account that pods run as. -/
structure ServiceAccount where
  name : Value
  ns : Value
  automountToken : Bool
deriving DecidableEq, Repr, Inhabited

def ServiceAccount.ofManifest (doc : Value) : Except Fault ServiceAccount := do
  let header ← metadata doc
  return {
    name := ← header.fieldD "name" (.text "")
    ns := ← header.field "namespace"
    automountToken := (← doc.orEmptyMap.field "automountServiceAccountToken") = .bool true }

end ClusterAudit
