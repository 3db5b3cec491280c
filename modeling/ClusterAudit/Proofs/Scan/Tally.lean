import ClusterAudit.Scan.Report
import Mathlib.Data.List.Perm.Basic

/-!
# Tallies

A tally counts findings, so it does not depend on their order, and the tally of findings that are
put together is the tally of the parts.  Findings that are sorted by the names of their detectors
are the same findings in another order.
-/

namespace ClusterAudit

namespace Tally

theorem ofFindings_eq_countP (findings : List Finding) :
    ofFindings findings =
      ⟨findings.countP fun finding ↦ finding.detector.level = .vulnerability,
        findings.countP fun finding ↦ finding.detector.level = .warning⟩ := by
  have hfold (tally : Tally) :
      findings.foldl (fun tally finding ↦ tally.add finding.detector.level) tally =
        ⟨tally.vulnerabilities + findings.countP fun finding ↦ finding.detector.level = .vulnerability,
          tally.warnings + findings.countP fun finding ↦ finding.detector.level = .warning⟩ := by
    induction findings generalizing tally with
    | nil => rfl
    | cons finding rest ih =>
      rw [List.foldl_cons, ih]
      cases hlevel : finding.detector.level with
      | vulnerability => simp [add, hlevel, Nat.add_assoc, Nat.add_comm 1]
      | warning => simp [add, hlevel, Nat.add_assoc, Nat.add_comm 1]
  rw [ofFindings, hfold]
  simp

theorem ofFindings_append (first second : List Finding) :
    ofFindings (first ++ second) = (ofFindings first).merge (ofFindings second) := by
  simp only [ofFindings_eq_countP, List.countP_append, merge]

theorem ofFindings_perm {first second : List Finding} (h : first.Perm second) :
    ofFindings first = ofFindings second := by
  rw [ofFindings_eq_countP, ofFindings_eq_countP, h.countP_eq, h.countP_eq]

/-- Merging the tallies of parts gives the tally of the whole. -/
theorem foldl_merge_ofFindings {ι : Type} (parts : List ι) (findings : ι → List Finding)
    (before : List Finding) :
    (parts.map fun part ↦ ofFindings (findings part)).foldl merge (ofFindings before) =
      ofFindings (before ++ parts.flatMap findings) := by
  induction parts generalizing before with
  | nil => rw [List.flatMap_nil, List.append_nil]; rfl
  | cons part rest ih =>
    rw [List.map_cons, List.foldl_cons, ← ofFindings_append, ih, List.flatMap_cons, List.append_assoc]

end Tally

/-- Sorting findings by their detectors loses and repeats none. -/
theorem flatMap_filter_name_perm {detectors : List Detector} {findings : List Finding}
    (hnodup : (detectors.map (·.name)).Nodup)
    (hall : ∀ finding ∈ findings, finding.detector.name ∈ detectors.map (·.name)) :
    (detectors.flatMap fun detector ↦
      findings.filter fun finding ↦ finding.detector.name = detector.name).Perm findings := by
  induction detectors generalizing findings with
  | nil =>
    have hnone : findings = [] := List.eq_nil_iff_forall_not_mem.2 fun finding hfinding ↦
      List.not_mem_nil (hall finding hfinding)
    rw [hnone]
    exact List.Perm.refl _
  | cons first rest ih =>
    obtain ⟨hfirst, hrest⟩ := List.nodup_cons.1 hnodup
    have hothers : ∀ detector ∈ rest,
        (findings.filter fun finding ↦ finding.detector.name = detector.name) =
          (findings.filter fun finding ↦ !decide (finding.detector.name = first.name)).filter
            fun finding ↦ finding.detector.name = detector.name := by
      intro detector hdetector
      have hne : detector.name ≠ first.name := by
        intro hsame
        exact hfirst (List.mem_map.2 ⟨detector, hdetector, hsame⟩)
      rw [List.filter_filter]
      apply List.filter_congr
      intro finding _
      by_cases hname : finding.detector.name = detector.name
      · simp [hname, hne]
      · simp [hname]
    rw [List.flatMap_cons, List.flatMap_congr hothers]
    -- What the first detector leaves is sorted by the other ones.
    refine List.Perm.trans (List.Perm.append_left _ (ih hrest ?_)) (List.filter_append_perm _ _)
    intro finding hfinding
    obtain ⟨hmem, hname⟩ := List.mem_filter.1 hfinding
    exact (List.mem_cons.1 (hall finding hmem)).resolve_left (by simpa using hname)

end ClusterAudit
