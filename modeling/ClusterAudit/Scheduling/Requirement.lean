import ClusterAudit.Manifest.Access

/-!
# Requirements that a node does not meet

A pod may run on a node only when the node meets its requirements.  Each check of this theory gives
the list of the requirements that are not met; the empty list means that the pod is welcome.
-/

namespace ClusterAudit.Scheduling

open Manifest

/-- A requirement that a node does not meet. -/
structure UnmetRequirement where
  key : Value
  value : Value
  /-- What else is to be told about the requirement, with its name. -/
  aspect : Option (String × Value) := none
deriving DecidableEq, Repr, Inhabited

/-- The entries of a selector that the labels lack or have with another value. -/
def unmetSelectors (labels selector : List Entry) : List UnmetRequirement :=
  (selector.filter fun (key, value) ↦ !((valueAt? labels key).getD .null).same value).map
    fun (key, value) ↦ ⟨.scalar key, value, none⟩

end ClusterAudit.Scheduling
