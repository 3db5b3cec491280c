import ClusterAudit.Detector.Basic
import ClusterAudit.Scheduling.Affinity
import ClusterAudit.Scheduling.Taint

/-!
# Detectors of node isolation

These detectors look at pairs of a node and a pod and warn when the node would refuse the pod.  They
inform, since a refusal is often what is wanted.
-/

namespace ClusterAudit.Detector

open Scheduling

def schedulingDocs : String := "https://kubernetes.io/docs/concepts/scheduling-eviction/"

def requirementEvidence (requirement : UnmetRequirement) : Except Fault (List Detail) := do
  let value ← requirement.value.display
  let aspect ←
    match requirement.aspect with
    | some (name, value) => do pure [Detail.ofText name (← value.display)]
    | none => pure []
  return [⟨"Key", requirement.key⟩, .ofText "Value" value] ++ aspect

/-- A check of pairs of which both sides are there. -/
def ofPair (unmet : Node → Pod → Except Fault (List UnmetRequirement)) (asset : Asset) :
    Except Fault (List Detail) :=
  match asset with
  | .schedulingPair ⟨some node, some pod⟩ => do
    return (← (← unmet node pod).mapM requirementEvidence).flatten
  | _ => .ok []

def isolation (name : String) (unmet : Node → Pod → Except Fault (List UnmetRequirement))
    (explanation url : String) : Detector where
  name
  kinds := [.schedulingPair]
  check := ofPair unmet
  explanation
  recommendation :=
    "Review which pods were rejected by nodes and ensure this complies with the desired behaviour."
  urls := [schedulingDocs, url]
  level := .warning
  severity := .low

/-- Finds the pairs of which the selector of the pod refuses the node. -/
def nodeSelector : Detector :=
  isolation "NODE_SELECTOR" (fun node pod ↦ .ok (unmetSelectors node.labels pod.nodeSelector))
    ("nodeSelector is the simplest recommended form of node selection constraint. nodeSelector " ++
      "specifies a map of key-value pairs. For the pod to be eligible to run on a node, the node " ++
      "must have each of the indicated key-value pairs as labels (it can have additional labels " ++
      "as well). The most common usage is one key-value pair.")
    (schedulingDocs ++ "assign-pod-node/#nodeselector")

/-- Finds the pairs of which the affinity of the pod refuses the node. -/
def nodeAffinity : Detector :=
  isolation "NODE_AFFINITY" (fun node pod ↦ unmetAffinity node.labels pod.affinityTerms)
    ("Node affinity allows you to constrain which nodes your pod is eligible to be scheduled on, " ++
      "based on labels on the node. It is conceptually similar to nodeSelector, but greatly " ++
      "expands types of constraints you can express.")
    (schedulingDocs ++ "assign-pod-node/#affinity-and-anti-affinity")

/-- Finds the pairs of which a taint of the node refuses the pod. -/
def nodeTaint : Detector :=
  isolation "NODE_TAINT" (fun node pod ↦ .ok (untoleratedTaints (some node.taints) pod.tolerations))
    ("Taints allow a node to repel a set of pods. Tolerations are applied to pods, and allow " ++
      "(but do not require) the pods to schedule onto nodes with matching taints. Taints and " ++
      "tolerations work together to ensure that pods are not scheduled onto inappropriate nodes. " ++
      "One or more taints are applied to a node; this marks that the node should not accept any " ++
      "pods that do not tolerate the taints.")
    (schedulingDocs ++ "taint-and-toleration/")

/-- The detectors of node isolation, in catalog order. -/
def isolationCatalog : List Detector :=
  [nodeSelector, nodeAffinity, nodeTaint]

end ClusterAudit.Detector
