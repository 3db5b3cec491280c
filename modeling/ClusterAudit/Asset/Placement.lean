import ClusterAudit.Asset.Rbac

/-!
# Nodes and pods

A node has labels and taints; a pod says by a selector, by affinity terms and by tolerations on which
nodes it may run.  Selector entries and affinity values are turned into text when they are read,
while labels and the fields of taints and tolerations keep the values of the manifest.
-/

namespace ClusterAudit

open Manifest

/-- A mark of a node that repels pods. -/
structure Taint where
  key : Value
  value : Value
  effect : Value
deriving DecidableEq, Repr, Inhabited

def Taint.ofManifest (doc : Value) : Except Fault Taint := do
  return {
    key := ← doc.fieldD "key" (.text "")
    value := ← doc.field "value"
    effect := ← doc.fieldD "effect" (.text "") }

/-- A mark of a pod that lets it run in spite of taints. -/
structure Toleration where
  key : Value
  operator : Value
  value : Value
  effect : Value
deriving DecidableEq, Repr, Inhabited

/-- The toleration that a manifest gives; without an operator it asks for equality. -/
def Toleration.ofManifest (doc : Value) : Except Fault Toleration := do
  let key ← doc.field "key"
  let operator ← doc.field "operator"
  return {
    key
    operator := if operator.isGiven then operator else .text "Equal"
    value := ← doc.field "value"
    effect := ← doc.field "effect" }

/-- A condition on one label of a node. -/
structure MatchExpression where
  key : Value
  operator : Value
  values : List Value
deriving DecidableEq, Repr, Inhabited

def MatchExpression.ofManifest (doc : Value) : Except Fault MatchExpression := do
  return {
    key := ← doc.fieldD "key" (.text "")
    operator := ← doc.fieldD "operator" (.text "")
    values := (← doc.fieldTexts "values").map .text }

/-- Conditions that a node has to meet together. -/
structure SelectorTerm where
  matchExpressions : List MatchExpression
deriving DecidableEq, Repr, Inhabited

def SelectorTerm.ofManifest (doc : Value) : Except Fault SelectorTerm := do
  return ⟨← (← doc.fieldElements "matchExpressions").mapM MatchExpression.ofManifest⟩

structure Node where
  name : Value
  labels : List Entry
  taints : List Taint
deriving DecidableEq, Repr, Inhabited

def Node.ofManifest (doc : Value) : Except Fault Node := do
  let header ← metadata doc
  let taints ← (← (← specification doc).fieldElements "taints").mapM Taint.ofManifest
  return {
    name := ← header.fieldD "name" (.text "")
    labels := ← (← header.field "labels").orEmptyMap.toEntries
    taints }

/-- A directory that a container mounts. -/
structure VolumeMount where
  name : Value
  mountPath : Value
  readOnly : Bool
deriving DecidableEq, Repr, Inhabited

def VolumeMount.ofManifest (doc : Value) : Except Fault VolumeMount := do
  return {
    name := ← doc.fieldD "name" (.text "")
    mountPath := ← doc.fieldD "mountPath" (.text "")
    readOnly := (← doc.field "readOnly").isGiven }

structure Container where
  name : Value
  image : Value
  volumeMounts : List VolumeMount
deriving DecidableEq, Repr, Inhabited

def Container.ofManifest (doc : Value) : Except Fault Container := do
  return {
    name := ← doc.fieldD "name" (.text "")
    image := ← doc.field "image"
    volumeMounts := ← (← doc.fieldElements "volumeMounts").mapM VolumeMount.ofManifest }

/-- A unit of work that runs on a node under a service account. -/
structure Pod where
  name : Value
  ns : Value
  nodeSelector : List Entry
  affinityTerms : List SelectorTerm
  /-- The tolerations, if the pod has such a list at all. -/
  tolerations : Option (List Toleration)
  serviceAccountName : Value
  nodeName : Value
  podIP : Value
  containers : List Container
deriving DecidableEq, Repr, Inhabited

namespace Pod

def assetName (pod : Pod) : Value :=
  .text (qualified pod.ns pod.name)

def nameParts (pod : Pod) : List Value :=
  [pod.ns, pod.name]

/-- The identity of the account that the pod runs as, which needs both a namespace and a name. -/
def serviceAccountIdentity? (pod : Pod) : Option String :=
  if pod.ns = .null || pod.serviceAccountName = .null then none
  else some (qualified pod.ns pod.serviceAccountName)

def accountParts (pod : Pod) : List Value :=
  ClusterAudit.accountParts pod.ns pod.serviceAccountName

def requiredAffinity (spec : Value) : Except Fault Value := do
  let affinity := (← spec.field "affinity").orEmptyMap
  let nodeAffinity := (← affinity.field "nodeAffinity").orEmptyMap
  return (← nodeAffinity.field "requiredDuringSchedulingIgnoredDuringExecution").orEmptyMap

/-- The tolerations of a pod specification; null is no list, while any other value has to be one. -/
def readTolerations (spec : Value) : Except Fault (Option (List Toleration)) := do
  let given ← spec.field "tolerations"
  if given = .null then return none
  return some (← (← given.elements).mapM Toleration.ofManifest)

def selectorEntry (entry : Entry) : Except Fault Entry := do
  return (.text (← (Value.scalar entry.1).display), .text (← entry.2.display))

/-- The selector of a pod specification, with keys and values as texts. -/
def readNodeSelector (spec : Value) : Except Fault (List Entry) := do
  let entries ← (← spec.field "nodeSelector").orEmptyMap.entries
  return putAll [] (← entries.mapM selectorEntry)

def ofManifest (doc : Value) : Except Fault Pod := do
  let header ← metadata doc
  let spec ← specification doc
  let status := (← doc.orEmptyMap.field "status").orEmptyMap
  let required ← requiredAffinity spec
  let affinityTerms ← (← required.fieldElements "nodeSelectorTerms").mapM SelectorTerm.ofManifest
  let tolerations ← readTolerations spec
  let containers ← (← spec.fieldElements "containers").mapM Container.ofManifest
  let account ← spec.field "serviceAccountName"
  let formerAccount ← spec.field "serviceAccount"
  return {
    name := ← header.fieldD "name" (.text "")
    ns := ← header.field "namespace"
    nodeSelector := ← readNodeSelector spec
    affinityTerms
    tolerations
    serviceAccountName := if account.isGiven then account else formerAccount
    nodeName := ← spec.field "nodeName"
    podIP := ← status.field "podIP"
    containers }

end Pod

end ClusterAudit
