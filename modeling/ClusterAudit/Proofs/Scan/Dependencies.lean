import ClusterAudit.Proofs.Scan.Completed

/-!
# Findings about dependencies

One detector of the catalogs looks at dependencies, and it is silent about those without role.  When
the names of nodes are keys, the dependencies in the table are looked up one by one, so that scans
can be computed without the indexes.
-/

namespace ClusterAudit

open Inventory Manifest SourceM Traversal

namespace Detector

/-- Only the report on escalation looks at dependencies. -/
theorem eq_escalationReport {detector : Detector} (h : detector ∈ all)
    (hkind : .escalationDependency ∈ detector.kinds) :
    detector = escalatingResourcesDependencyReport := by
  obtain ⟨i, rfl⟩ := List.mem_iff_get.1 h
  have hposition : ∀ i : Fin all.length, .escalationDependency ∈ (all.get i).kinds → i.val = 5 := by
    decide
  have hi := hposition i hkind
  rw [List.get_eq_getElem]
  simp only [hi]
  rfl

end Detector

namespace Scan

/-- The finding against a dependency, if there is one. -/
def pathFinding? (dependency : EscalationDependency) : Option Finding :=
  found? Detector.escalatingResourcesDependencyReport (.escalationDependency dependency)

theorem pathFinding?_without_role {dependency : EscalationDependency} (h : dependency.role = none) :
    pathFinding? dependency = none := by
  have hdetails : Detector.escalatingResourcesDependencyReport.evaluate
      (some (.escalationDependency dependency)) = .ok [] := by
    change Detector.escalationEvidence dependency = _
    rw [Detector.escalationEvidence, h]
    rfl
  rw [pathFinding?, found?, findingOf, hdetails]
  rfl

theorem detected_dependencies (dependencies : List EscalationDependency) :
    detected Detector.escalatingResourcesDependencyReport
      (dependencies.map .escalationDependency) = dependencies.filterMap pathFinding? :=
  List.filterMap_map ..

end Scan

end ClusterAudit
