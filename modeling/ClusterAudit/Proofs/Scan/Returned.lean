import ClusterAudit.Proofs.Scan.Completed

/-!
# Outcomes that are returned

When a scan of any source returns an outcome, its reports are those of the selected detectors, or of
the assets with findings, against the assets that the inventory knows, whatever these are.  Its counts
are those of the findings in the reports, and every finding comes with evidence and stands against an
asset of a kind at which its detector looks.
-/

namespace ClusterAudit.Scan

open Inventory SourceM Traversal

/-! ## Reports that were made -/

theorem eq_found?_of_findingOf {detector : Detector} {asset : Asset} {finding : Option Finding}
    (h : findingOf detector asset = .ok finding) : finding = found? detector asset := by
  rw [found?, h]
  rfl

/-- A finding comes with evidence against an asset of a kind at which its detector looks. -/
theorem evidence_of_found? {detector : Detector} {asset : Asset} {finding : Finding}
    (h : found? detector asset = some finding) :
    finding.details ≠ [] ∧ asset.kind ∈ detector.kinds := by
  unfold found? findingOf at h
  cases hdetails : detector.evaluate (some asset) with
  | error fault =>
    rw [hdetails] at h
    cases h
  | ok details =>
    rw [hdetails] at h
    have hevidence : details ≠ [] ∧ some ⟨detector, asset, details⟩ = some finding := by
      cases details with
      | nil => cases h
      | cons first rest => exact ⟨List.cons_ne_nil first rest, h⟩
    obtain ⟨hne, hfinding⟩ := hevidence
    refine ⟨Option.some.inj hfinding ▸ hne, ?_⟩
    by_contra hkind
    have happlies : detector.appliesTo asset.kind = false := by
      rw [Detector.appliesTo, ← Bool.not_eq_true, List.contains_iff_mem]
      exact hkind
    rw [Detector.evaluate, happlies, if_neg Bool.false_ne_true] at hdetails
    exact hne (Except.ok.inj hdetails).symm

theorem eq_reportOf_of_detectorReport {stored : AssetKind → List Asset} {detector : Detector}
    {report : DetectorReport} (h : detectorReport stored detector = .ok report) :
    report = reportOf stored detector := by
  obtain ⟨findings, hfindings, h⟩ := bind_eq_ok h
  obtain ⟨made, hmade, hfindings⟩ := bind_eq_ok hfindings
  cases h
  cases hfindings
  rw [eq_map_of_mapM hmade fun asset _ finding hfinding ↦ eq_found?_of_findingOf hfinding,
    List.filterMap_map]
  rfl

theorem eq_reportAbout?_of_assetReport? {detectors : List Detector} {asset : Asset}
    {report : Option AssetReport} (h : assetReport? detectors asset = .ok report) :
    report = reportAbout? detectors asset := by
  obtain ⟨findings, hfindings, h⟩ := bind_eq_ok h
  obtain ⟨made, hmade, hfindings⟩ := bind_eq_ok hfindings
  cases h
  cases hfindings
  rw [eq_map_of_mapM hmade fun detector _ finding hfinding ↦ eq_found?_of_findingOf hfinding,
    List.filterMap_map]
  rfl

section

variable {config : AuditConfig} {audience : Audience} {stored : AssetKind → List Asset}
  {outcome : ScanOutcome}

/-- An outcome that is returned has one report for each detector, or one for each asset with findings. -/
theorem outcome_eq_of_conclude (h : (conclude config audience stored).1 = .ok outcome) :
    outcome =
      if config.groupByAsset then
        outcomeByAsset ((scope config stored).filterMap (reportAbout? config.detectors))
      else outcomeByDetector (config.detectors.map (reportOf stored)) := by
  have hsilent : (conclude config (fun _ ↦ none) stored).1 = .ok outcome :=
    conclude_of_taken h fun _ _ ↦ rfl
  unfold conclude at hsilent
  split at hsilent
  · rename_i hgroup
    obtain ⟨reports, hreports, rfl⟩ := map_eq_ok hsilent
    rw [publish_silently] at hreports
    obtain ⟨made, hmade, rfl⟩ := map_eq_ok hreports
    have hmap := eq_map_of_mapM hmade fun asset _ report hreport ↦
      eq_reportAbout?_of_assetReport? hreport
    rw [if_pos hgroup, hmap, List.filterMap_map]
    rfl
  · rename_i hgroup
    obtain ⟨reports, hreports, rfl⟩ := map_eq_ok hsilent
    rw [publish_silently] at hreports
    obtain ⟨made, hmade, rfl⟩ := map_eq_ok hreports
    have hmap := eq_map_of_mapM (g := fun detector ↦ some (reportOf stored detector)) hmade (by
      intro detector _ report hreport
      obtain ⟨made, hmade, rfl⟩ := map_eq_ok hreport
      rw [eq_reportOf_of_detectorReport hmade])
    have hreports : made.filterMap id = config.detectors.map (reportOf stored) := by
      rw [hmap, List.filterMap_map]
      exact congrFun List.filterMap_eq_map _
    rw [if_neg hgroup, hreports]
    rfl

/-- The selected detectors have a finding, with evidence against an asset of a kind of its detector. -/
structure Backed (config : AuditConfig) (finding : Finding) : Prop where
  detector_mem : finding.detector ∈ config.detectors
  details_ne_nil : finding.details ≠ []
  kind_mem : finding.asset.kind ∈ finding.detector.kinds

theorem backed_of_found? {detector : Detector} (hdetector : detector ∈ config.detectors) {asset : Asset}
    {finding : Finding} (h : found? detector asset = some finding) : Backed config finding := by
  obtain ⟨hdetails, hkind⟩ := evidence_of_found? h
  obtain ⟨rfl, rfl⟩ := of_found? h
  exact ⟨hdetector, hdetails, hkind⟩

theorem backed_of_mem_reportOf {detector : Detector} (hdetector : detector ∈ config.detectors)
    {finding : Finding} (h : finding ∈ (reportOf stored detector).findings) :
    Backed config finding ∧ finding.detector = detector := by
  obtain ⟨asset, -, hfound⟩ := List.mem_filterMap.1 h
  exact ⟨backed_of_found? hdetector hfound, (of_found? hfound).1⟩

theorem backed_of_mem_against {asset : Asset} {finding : Finding}
    (h : finding ∈ against config.detectors asset) : Backed config finding := by
  obtain ⟨detector, hdetector, hfound⟩ := List.mem_filterMap.1 h
  exact backed_of_found? (List.mem_filter.1 hdetector).1 hfound

/-- The names of the detectors that have findings against an asset stand in the order of the
detectors. -/
theorem names_against_sublist (detectors : List Detector) (asset : Asset) :
    ((against detectors asset).map (·.detector.name)).Sublist (detectors.map (·.name)) := by
  have happlying : ((detectors.filter fun detector ↦ detector.appliesTo asset.kind).map
      (·.name)).Sublist (detectors.map (·.name)) := List.filter_sublist.map _
  refine List.Sublist.trans ?_ happlying
  rw [against, List.map_filterMap, ← List.filterMap_eq_map]
  apply Filtering.filterMap_sublist (List.Sublist.refl _)
  intro detector _ name hname
  obtain ⟨finding, hfinding, rfl⟩ := Option.map_eq_some_iff.1 hname
  rw [(of_found? hfinding).1]
  rfl

/-- What the reports of an outcome add up to. -/
structure Accounted (config : AuditConfig) (outcome : ScanOutcome) : Prop where
  result_eq : outcome.result = Tally.ofFindings outcome.reports.findings
  backed : ∀ finding ∈ outcome.reports.findings, Backed config finding

theorem accounted_of_conclude (h : (conclude config audience stored).1 = .ok outcome) :
    Accounted config outcome := by
  rw [outcome_eq_of_conclude h]
  split
  · refine ⟨rfl, ?_⟩
    intro finding hfinding
    change finding ∈ ((scope config stored).filterMap (reportAbout? config.detectors)).flatMap
      (·.findings) at hfinding
    rw [flatMap_findings_reportAbout?] at hfinding
    obtain ⟨asset, -, hagainst⟩ := List.mem_flatMap.1 hfinding
    exact backed_of_mem_against hagainst
  · have hfindings : (outcomeByDetector (config.detectors.map (reportOf stored))).reports.findings =
        config.detectors.flatMap fun detector ↦ (reportOf stored detector).findings :=
      List.flatMap_map ..
    refine ⟨?_, ?_⟩
    · rw [result_outcomeByDetector_eq, hfindings]
      rfl
    · rw [hfindings]
      intro finding hfinding
      obtain ⟨detector, hdetector, hreport⟩ := List.mem_flatMap.1 hfinding
      exact (backed_of_mem_reportOf hdetector hreport).1

end

/-- A scan that returns has concluded from the assets that its inventory knows. -/
theorem exists_conclude_of_run {σ : Type} {inventory : Inventory σ} {s : InventoryState σ}
    {config : AuditConfig} {audience : Audience} {outcome : ScanOutcome}
    (h : ((run config inventory audience).run s).1 = .ok outcome) :
    ∃ stored, (conclude config audience stored).1 = .ok outcome := by
  rw [run_run] at h
  rcases hlearn : (learn inventory config.detectors).run s with ⟨fault | _, t⟩
  · rw [hlearn] at h
    cases h
  · rw [hlearn] at h
    exact ⟨recalled t.known, h⟩

end ClusterAudit.Scan
