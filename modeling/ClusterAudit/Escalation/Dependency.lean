import ClusterAudit.Asset.Basic
import ClusterAudit.Escalation.Rule
import Std.Data.HashMap

/-!
# Escalation dependencies

A binding gives its role to subjects.  A pod that runs as such a subject, on a node that is known,
carries the rights of the role to that node.  For each binding, each of its subjects and each pod of
the subject, in these orders, there is one dependency.  Pods are found by the identity of their
account in an index, and the node of a pod is the first one of that name.  Identities are texts, so an
identity with an integer of too many digits cannot be looked up.
-/

namespace ClusterAudit.Escalation

open Manifest

def subjectKinds : List String := ["ServiceAccount", "Group"]

/-- The first role with the identity that the binding refers to. -/
def findRole (binding : RoleBinding) (roles : List Role) : Option Role :=
  roles.find? fun role ↦ role.assetName.same binding.roleRefName

/-- Looks the role of a binding up, role by role.  When no role is found, this is noted with the
identities of the binding and of its role. -/
def lookUpRole (binding : RoleBinding) : List Role → Except Fault (Option Role)
  | [] => Value.written (binding.nameParts ++ binding.refParts) none
  | role :: rest => do
    let found ← Value.written (role.nameParts ++ binding.refParts)
      (role.assetName.same binding.roleRefName)
    if found then return some role else lookUpRole binding rest

def indexNodes (nodes : List Node) : Except Fault (List (Scalar × Node)) :=
  nodes.mapM fun node ↦ do return (← node.name.asKey, node)

/-- The first node whose name is the same as the given one. -/
def findNode (index : List (Scalar × Node)) (name : Value) : Except Fault (Option Node) := do
  let key ← name.asKey
  return (index.find? fun entry ↦ entry.1.same key).map (·.2)

/-- The pods by the identity of their accounts, in order. -/
abbrev PodIndex := Std.HashMap String (List Pod)

def PodIndex.put (index : PodIndex) (pod : Pod) : PodIndex :=
  match pod.serviceAccountIdentity? with
  | none => index
  | some identity => index.insert identity (pod :: index.getD identity [])

def PodIndex.ofList (pods : List Pod) : PodIndex :=
  pods.foldr (fun pod index ↦ PodIndex.put index pod) ∅

def indexPods (pods : List Pod) : Except Fault PodIndex :=
  Value.written (pods.flatMap (·.accountParts)) (PodIndex.ofList pods)

def isAccount (subject : Subject) : Bool :=
  subjectKinds.any fun kind ↦ subject.kind.same (.text kind)

/-- The identity of a subject that pods can run as and that is not passed over; the identities in
`passedOver` are skipped unless all are wanted. -/
def eligibleIdentity? (passedOver : List String) (wantAll : Bool) (subject : Subject) :
    Option String :=
  if isAccount subject then
    subject.identity?.filter fun identity ↦ wantAll || !passedOver.contains identity
  else none

/-- What is written of a subject: the identity if pods can run as it. -/
def subjectParts (subject : Subject) : List Value :=
  if isAccount subject then subject.identityParts else []

/-- The dependency of a binding through one pod, if the node of the pod is known. -/
def throughPod (nodes : List (Scalar × Node)) (binding : RoleBinding) (role : Option Role)
    (identity : String) (pod : Pod) : Except Fault (Option EscalationDependency) := do
  return (← findNode nodes pod.nodeName).map fun node ↦ {
    binding, role, node, pod
    serviceAccount := identity
    escalatingRules := (role.map fun r ↦ escalatingRules r.rules).getD [] }

def throughSubject (nodes : List (Scalar × Node)) (pods : PodIndex) (passedOver : List String)
    (wantAll : Bool) (binding : RoleBinding) (role : Option Role) (subject : Subject) :
    Except Fault (List EscalationDependency) := do
  match ← Value.written (subjectParts subject) (eligibleIdentity? passedOver wantAll subject) with
  | none => return []
  | some identity => do
    let found ← (pods.getD identity []).mapM (throughPod nodes binding role identity)
    return found.filterMap id

/-- The dependencies of one binding, whose role is looked up when it has subjects. -/
def throughBinding (roles : List Role) (nodes : List (Scalar × Node)) (pods : PodIndex)
    (passedOver : List String) (wantAll : Bool) (binding : RoleBinding) :
    Except Fault (List EscalationDependency) := do
  if binding.subjects.isEmpty then return []
  else
    let role ← lookUpRole binding roles
    let found ← binding.subjects.mapM (throughSubject nodes pods passedOver wantAll binding role)
    return found.flatten

/-- The dependencies of all bindings.  A binding whose role is not known has dependencies without
role and rules. -/
def resolve (bindings : List RoleBinding) (roles : List Role) (nodes : List Node)
    (pods : List Pod) (passedOver : List String) (wantAll : Bool) :
    Except Fault (List EscalationDependency) := do
  let nodeIndex ← indexNodes nodes
  let podIndex ← indexPods pods
  let found ← bindings.mapM (throughBinding roles nodeIndex podIndex passedOver wantAll)
  return found.flatten

end ClusterAudit.Escalation
