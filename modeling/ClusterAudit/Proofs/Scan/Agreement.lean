import ClusterAudit.Proofs.Scan.Findings
import ClusterAudit.Proofs.Scan.Outcome
import ClusterAudit.Proofs.Scan.Tally

/-!
# Agreement of the two groupings

A scan by detector and a scan by asset look at the same assets with the same detectors.  Either
fails when the other one does, and otherwise the findings of a detector are those that the reports
about the assets have of it, in the same order, so that both scans count alike.
-/

namespace ClusterAudit.Scan

open Inventory Manifest SourceM

/-! ## Findings of one detector among those against assets -/

/-- Only assets without findings are left out of the reports. -/
theorem flatMap_findings_reportAbout? (detectors : List Detector) (assets : List Asset) :
    (assets.filterMap (reportAbout? detectors)).flatMap (·.findings) =
      assets.flatMap (against detectors) := by
  induction assets with
  | nil => rfl
  | cons asset rest ih =>
    rw [List.flatMap_cons, ← ih]
    cases hempty : (against detectors asset).isEmpty with
    | true =>
      rw [List.filterMap_cons_none (by simp [reportAbout?, hempty]), List.isEmpty_iff.1 hempty,
        List.nil_append]
    | false =>
      have hreport : reportAbout? detectors asset = some ⟨asset, against detectors asset⟩ := by
        simp [reportAbout?, hempty]
      rw [List.filterMap_cons_some hreport, List.flatMap_cons]

theorem detector_name_of_mem_against {detectors : List Detector} {asset : Asset} {finding : Finding}
    (h : finding ∈ against detectors asset) :
    finding.detector.name ∈ detectors.map (·.name) ∧ finding.asset = asset := by
  obtain ⟨detector, hdetector, hfinding⟩ := List.mem_filterMap.1 h
  obtain ⟨hname, hasset⟩ := of_found? hfinding
  rw [hname]
  exact ⟨List.mem_map_of_mem (List.mem_filter.1 hdetector).1, hasset⟩

section

variable {detectors : List Detector} (hnodup : (detectors.map (·.name)).Nodup)

include hnodup

theorem filter_name_eq_singleton {detector : Detector} (h : detector ∈ detectors) :
    (detectors.filter fun other ↦ other.name = detector.name) = [detector] := by
  induction detectors with
  | nil => cases h
  | cons first rest ih =>
    obtain ⟨hfirst, hrest⟩ := List.nodup_cons.1 hnodup
    rcases List.mem_cons.1 h with rfl | hmem
    · have hnone : (rest.filter fun other ↦ other.name = detector.name) = [] := by
        rw [List.filter_eq_nil_iff]
        intro other hother hsame
        exact hfirst (List.mem_map.2 ⟨other, hother, of_decide_eq_true hsame⟩)
      rw [List.filter_cons_of_pos (by simp), hnone]
    · have hne : ¬first.name = detector.name := by
        intro hsame
        exact hfirst (List.mem_map.2 ⟨detector, hmem, hsame.symm⟩)
      rw [List.filter_cons_of_neg (by simp [hne]), ih hrest hmem]

theorem filter_name_against {detector : Detector} (h : detector ∈ detectors) (asset : Asset) :
    ((against detectors asset).filter fun finding ↦ finding.detector.name = detector.name) =
      if detector.appliesTo asset.kind then (found? detector asset).toList else [] := by
  have hsame : ∀ other : Detector,
      (found? other asset).filter (fun finding ↦ finding.detector.name = detector.name) =
        if decide (other.name = detector.name) then found? other asset else none := by
    intro other
    cases hfound : found? other asset with
    | none => simp
    | some finding => rw [Option.filter_some, (of_found? hfound).1]
  rw [against, List.filter_filterMap, List.filterMap_congr fun other _ ↦ hsame other,
    ← List.filterMap_filter, List.filter_comm, filter_name_eq_singleton hnodup h,
    List.filter_singleton]
  cases happlies : detector.appliesTo asset.kind with
  | true =>
    rw [cond_true, if_pos rfl, List.filterMap_cons]
    cases found? detector asset with
    | none => rfl
    | some finding => rfl
  | false => rfl

/-- The findings of a detector among those against some assets are those against the assets to which
it applies. -/
theorem filter_name_flatMap_against {detector : Detector} (h : detector ∈ detectors)
    (assets : List Asset) :
    ((assets.flatMap (against detectors)).filter fun finding ↦
      finding.detector.name = detector.name) =
        detected detector (assets.filter fun asset ↦ detector.appliesTo asset.kind) := by
  induction assets with
  | nil => rfl
  | cons asset rest ih =>
    rw [List.flatMap_cons, List.filter_append, ih, filter_name_against hnodup h]
    cases happlies : detector.appliesTo asset.kind with
    | true =>
      rw [List.filter_cons, happlies, if_pos rfl, if_pos rfl, detected, detected, List.filterMap_cons]
      cases found? detector asset with
      | none => rfl
      | some finding => rfl
    | false =>
      rw [List.filter_cons, happlies, if_neg Bool.false_ne_true, if_neg Bool.false_ne_true,
        List.nil_append]

end

/-! ## Agreement -/

/-- Reports by detector and reports by asset that tell of the same findings. -/
structure SameFindings (detectors : List Detector) (byDetector : List DetectorReport)
    (byAsset : List AssetReport) : Prop where
  detectors_eq : byDetector.map (·.detector) = detectors
  detector_of_mem : ∀ report ∈ byDetector, ∀ finding ∈ report.findings,
    finding.detector = report.detector
  asset_of_mem : ∀ report ∈ byAsset, ∀ finding ∈ report.findings, finding.asset = report.asset
  /-- The findings of a detector, collected from the reports by asset in their order. -/
  findings_eq : ∀ report ∈ byDetector, report.findings =
    (byAsset.flatMap (·.findings)).filter fun finding ↦
      finding.detector.name = report.detector.name

/-- A scan by detector and a scan by asset that both fail, or tell of the same findings and count
them alike. -/
def Agree (detectors : List Detector) (byDetector byAsset : Except Fault ScanOutcome) : Prop :=
  byDetector.isOk = byAsset.isOk ∧
  ∀ detected audited, byDetector = .ok detected → byAsset = .ok audited →
    detected.result = audited.result ∧
    ∃ detectorReports assetReports, detected.reports = .byDetector detectorReports ∧
      audited.reports = .byAsset assetReports ∧ SameFindings detectors detectorReports assetReports

section

variable {config : AuditConfig} {stored : AssetKind → List Asset}
  (hkinds : ∀ kind ∈ Detector.assetKinds config.detectors, ∀ asset ∈ stored kind, asset.kind = kind)

/-- The counts of the reports by detector are those of all their findings. -/
theorem result_outcomeByDetector_eq (stored : AssetKind → List Asset) (detectors : List Detector) :
    (outcomeByDetector (detectors.map (reportOf stored))).result =
      Tally.ofFindings (detectors.flatMap fun detector ↦
        detected detector (detector.kinds.flatMap stored)) := by
  rw [outcomeByDetector, List.map_map]
  exact Tally.foldl_merge_ofFindings detectors _ []

theorem detectors_names_nodup (config : AuditConfig) : (config.detectors.map (·.name)).Nodup :=
  Detector.all_names_nodup.sublist (config.detectors_sublist.map _)

include hkinds

/-- A detector detects what is found of it against all assets. -/
theorem detected_kinds_eq {detector : Detector} (hdetector : detector ∈ config.detectors) :
    detected detector (detector.kinds.flatMap stored) =
      ((scope config stored).flatMap (against config.detectors)).filter fun finding ↦
        finding.detector.name = detector.name := by
  rw [filter_name_flatMap_against (detectors_names_nodup config) hdetector,
    filter_appliesTo_scope hkinds hdetector]

theorem sameFindings : SameFindings config.detectors (config.detectors.map (reportOf stored))
    ((scope config stored).filterMap (reportAbout? config.detectors)) where
  detectors_eq := by
    rw [List.map_map]
    exact List.map_id _
  detector_of_mem := by
    intro report hreport finding hfinding
    obtain ⟨detector, -, rfl⟩ := List.mem_map.1 hreport
    obtain ⟨asset, -, hfound⟩ := List.mem_filterMap.1 hfinding
    exact (of_found? hfound).1
  asset_of_mem := by
    intro report hreport finding hfinding
    obtain ⟨asset, -, habout⟩ := List.mem_filterMap.1 hreport
    obtain ⟨-, rfl⟩ := of_reportAbout? habout
    exact (detector_name_of_mem_against hfinding).2
  findings_eq := by
    intro report hreport
    obtain ⟨detector, hdetector, rfl⟩ := List.mem_map.1 hreport
    rw [flatMap_findings_reportAbout?]
    exact detected_kinds_eq hkinds hdetector

/-- The findings count alike in both groupings. -/
theorem result_outcomeByDetector :
    (outcomeByDetector (config.detectors.map (reportOf stored))).result =
      (outcomeByAsset ((scope config stored).filterMap (reportAbout? config.detectors))).result := by
  have hfindings := List.flatMap_congr
    fun (detector : Detector) (hdetector : detector ∈ config.detectors) ↦
      detected_kinds_eq hkinds hdetector
  have hall : ∀ finding ∈ (scope config stored).flatMap (against config.detectors),
      finding.detector.name ∈ config.detectors.map (·.name) := by
    intro finding hfinding
    obtain ⟨asset, -, hagainst⟩ := List.mem_flatMap.1 hfinding
    exact (detector_name_of_mem_against hagainst).1
  calc (outcomeByDetector (config.detectors.map (reportOf stored))).result
      = Tally.ofFindings (config.detectors.flatMap fun detector ↦
          detected detector (detector.kinds.flatMap stored)) :=
        result_outcomeByDetector_eq stored config.detectors
    _ = Tally.ofFindings ((scope config stored).flatMap (against config.detectors)) := by
        rw [hfindings]
        exact Tally.ofFindings_perm (flatMap_filter_name_perm (detectors_names_nodup config) hall)
    _ = (outcomeByAsset ((scope config stored).filterMap (reportAbout? config.detectors))).result := by
        rw [outcomeByAsset, flatMap_findings_reportAbout?]

theorem conclude_agree : Agree config.detectors
    (conclude { config with groupByAsset := false } (fun _ ↦ none) stored).1
    (conclude { config with groupByAsset := true } (fun _ ↦ none) stored).1 := by
  by_cases hjudged : Judged config.detectors (scope config stored)
  · rw [conclude_byDetector hkinds hjudged, conclude_byAsset hjudged]
    refine ⟨rfl, ?_⟩
    rintro detected audited ⟨⟩ ⟨⟩
    exact ⟨result_outcomeByDetector hkinds, _, _, rfl, rfl, sameFindings hkinds⟩
  · obtain ⟨fault, hbyDetector⟩ := conclude_byDetector_error hkinds hjudged
    obtain ⟨other, hbyAsset⟩ := conclude_byAsset_error hjudged
    rw [hbyDetector, hbyAsset]
    refine ⟨rfl, ?_⟩
    rintro detected audited ⟨⟩

end

/-! ## Scans from any state -/

variable {σ : Type}

/-- The states of the inventories over a source: new ones, and those after requests and scans, of
which any may have failed. -/
inductive Reached (inventory : Inventory σ) (list : AssetKind → SourceM σ (List Value)) (start : σ) :
    InventoryState σ → Prop
  | fresh {source : σ} (h : Listed list start source) :
      Reached inventory list start { source := source }
  | request {s : InventoryState σ} (h : Reached inventory list start s) (request : Request) :
      Reached inventory list start ((inventory.serve request).run s).2
  | scan {s : InventoryState σ} (h : Reached inventory list start s) (config : AuditConfig)
      (audience : Audience) : Reached inventory list start ((run config inventory audience).run s).2

theorem Reached.faithful {list : AssetKind → SourceM σ (List Value)}
    {defaultNames : AssetKind → List String} {includeDefaults : Bool} {start : σ}
    {contents : AssetKind → Except Fault (List Value)} {s : InventoryState σ}
    (hfixed : Fixed list start contents)
    (h : Reached ⟨.ofManifests list defaultNames, includeDefaults⟩ list start s) :
    Faithful ⟨.ofManifests list defaultNames, includeDefaults⟩ list start contents s := by
  induction h with
  | fresh hlisted => exact ⟨hlisted, fun _ _ hknown ↦ nomatch hknown⟩
  | request _ request ih =>
    exact ih.steps rfl hfixed (after_steps _ [request] _)
  | scan _ config audience ih => exact faithful_run rfl hfixed ih config audience

/-- Over fixed contents, whatever was asked for or scanned before, a scan by detector fails exactly
when a scan by asset does, and otherwise both tell of the same findings and count them alike. -/
theorem groupings_agree (list : AssetKind → SourceM σ (List Value))
    (defaultNames : AssetKind → List String) (includeDefaults : Bool) (start : σ)
    (contents : AssetKind → Except Fault (List Value)) (hfixed : Fixed list start contents)
    (config : AuditConfig) (s t : InventoryState σ)
    (hs : Reached ⟨.ofManifests list defaultNames, includeDefaults⟩ list start s)
    (ht : Reached ⟨.ofManifests list defaultNames, includeDefaults⟩ list start t) :
    let inventory : Inventory σ := ⟨.ofManifests list defaultNames, includeDefaults⟩
    Agree config.detectors
      ((run { config with groupByAsset := false } inventory fun _ ↦ none).run s).1
      ((run { config with groupByAsset := true } inventory fun _ ↦ none).run t).1 := by
  intro inventory
  rw [run_result rfl hfixed (hs.faithful hfixed), run_result rfl hfixed (ht.faithful hfixed)]
  change Agree config.detectors (provided inventory contents config.detectors >>= _)
    (provided inventory contents config.detectors >>= _)
  cases provided inventory contents config.detectors with
  | error fault =>
    refine ⟨rfl, ?_⟩
    rintro detected audited ⟨⟩
  | ok _ => exact conclude_agree fun kind _ asset hasset ↦ kind_of_mem_table hasset

/-- A node with a taint, a pod that does not tolerate it and selects other nodes, and a policy. -/
def guarded : Snapshot where
  manifests := [
    (.node, .map [(.text "spec", .map [(.text "taints",
      .list [.map [(.text "key", .text "gpu"), (.text "effect", .text "NoSchedule")]])])]),
    (.pod, .map [(.text "spec", .map [(.text "tolerations", .list []),
      (.text "nodeSelector", .map [(.text "disk", .text "ssd")])])]),
    (.podSecurityPolicy, .map [(.text "spec", .map [(.text "privileged", .bool true)])])]

/-- The scan by asset comes after the scan by detector and finds the same again. -/
theorem groupings_agree_on_guarded :
    let config : AuditConfig := { rbac := some [], isolation := none, podSecurity := some [1] }
    let inventory : Inventory Snapshot := ⟨.ofManifests Snapshot.list fun _ ↦ [], false⟩
    let fresh : InventoryState Snapshot := { source := guarded }
    let byDetector := (run { config with groupByAsset := false } inventory fun _ ↦ none).run fresh
    let byAsset := (run { config with groupByAsset := true } inventory fun _ ↦ none).run byDetector.2
    Agree config.detectors byDetector.1 byAsset.1 ∧
    byAsset.1.toOption.map (·.result) = some ⟨1, 2⟩ := by
  intro config inventory fresh byDetector byAsset
  have hfresh : Reached inventory Snapshot.list guarded fresh := .fresh .start
  exact ⟨groupings_agree Snapshot.list (fun _ ↦ []) false guarded guarded.answer guarded.list_fixed
    config fresh byDetector.2 hfresh (hfresh.scan _ _), by decide +kernel⟩

end ClusterAudit.Scan
