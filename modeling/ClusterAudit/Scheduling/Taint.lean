import ClusterAudit.Asset.Placement
import ClusterAudit.Scheduling.Requirement

/-!
# Taints and tolerations

A taint keeps a pod away unless one of its tolerations matches.  A toleration without a key matches
every taint; otherwise the keys are equal, the effect is equal or left open, and the operator asks
only for the key or also for an equal value.
-/

namespace ClusterAudit.Scheduling

open Manifest

def toleratesTaint (toleration : Toleration) (taint : Taint) : Bool :=
  if !toleration.key.isGiven then true
  else if !toleration.key.same taint.key then false
  else if toleration.effect.isGiven && !toleration.effect.same taint.effect then false
  else if toleration.operator.same (.text "Exists") then true
  else
    toleration.operator.same (.text "Equal") && toleration.value ≠ .null &&
      toleration.value.same taint.value

def unmetTaint (taint : Taint) : UnmetRequirement :=
  ⟨taint.key, taint.value, some ("Effect", taint.effect)⟩

/-- The taints that no toleration matches; without a list of taints or of tolerations there are
none. -/
def untoleratedTaints (taints : Option (List Taint)) (tolerations : Option (List Toleration)) :
    List UnmetRequirement :=
  match taints, tolerations with
  | some taints, some tolerations =>
    (taints.filter fun taint ↦ !tolerations.any fun toleration ↦ toleratesTaint toleration taint).map
      unmetTaint
  | _, _ => []

end ClusterAudit.Scheduling
