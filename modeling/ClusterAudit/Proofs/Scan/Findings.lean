import ClusterAudit.Proofs.Detector.Kinds
import ClusterAudit.Proofs.Filtering
import ClusterAudit.Proofs.Scan.Stages
import ClusterAudit.Proofs.Traversal

/-!
# Findings of the two groupings

When every detector can judge every asset to which it applies, a scan by detector and a scan by
asset both end with reports, which are computed here; otherwise both fail.
-/

namespace ClusterAudit.Scan

/-! ## Findings -/

/-- The finding of a detector against an asset; none also when looking for it fails. -/
def found? (detector : Detector) (asset : Asset) : Option Finding :=
  (findingOf detector asset).toOption.join

theorem findingOf_eq_found? {detector : Detector} {asset : Asset}
    (h : ∃ finding, findingOf detector asset = .ok finding) :
    findingOf detector asset = .ok (found? detector asset) := by
  obtain ⟨finding, hfinding⟩ := h
  rw [found?, hfinding]
  rfl

/-- A finding names its detector and its asset. -/
theorem of_found? {detector : Detector} {asset : Asset} {finding : Finding}
    (h : found? detector asset = some finding) :
    finding.detector = detector ∧ finding.asset = asset := by
  unfold found? findingOf at h
  cases hdetails : detector.evaluate (some asset) with
  | error fault =>
    rw [hdetails] at h
    cases h
  | ok details =>
    rw [hdetails] at h
    cases hempty : details.isEmpty with
    | true => simp [Except.toOption, bind, Except.bind, pure, Except.pure, hempty] at h
    | false =>
      simp [Except.toOption, bind, Except.bind, pure, Except.pure, hempty] at h
      rw [← h]
      exact ⟨rfl, rfl⟩

/-! ## Reports without a fault -/

/-- The findings of a detector against some assets. -/
def detected (detector : Detector) (assets : List Asset) : List Finding :=
  assets.filterMap (found? detector)

/-- The findings of the detectors that apply to an asset. -/
def against (detectors : List Detector) (asset : Asset) : List Finding :=
  (detectors.filter fun detector ↦ detector.appliesTo asset.kind).filterMap (found? · asset)

theorem findingsOfDetector_eq {detector : Detector} {assets : List Asset}
    (h : ∀ asset ∈ assets, ∃ finding, findingOf detector asset = .ok finding) :
    findingsOfDetector detector assets = .ok (detected detector assets) := by
  rw [findingsOfDetector,
    Traversal.mapM_eq_ok_map fun asset hasset ↦ findingOf_eq_found? (h asset hasset)]
  exact congrArg Except.ok (List.filterMap_map ..)

theorem findingsAgainst_eq {detectors : List Detector} {asset : Asset}
    (h : ∀ detector ∈ detectors, detector.appliesTo asset.kind →
      ∃ finding, findingOf detector asset = .ok finding) :
    findingsAgainst detectors asset = .ok (against detectors asset) := by
  have happlying : ∀ detector ∈ detectors.filter (fun detector ↦ detector.appliesTo asset.kind),
      findingOf detector asset = .ok (found? detector asset) := by
    intro detector hdetector
    obtain ⟨hmem, happlies⟩ := List.mem_filter.1 hdetector
    exact findingOf_eq_found? (h detector hmem happlies)
  rw [findingsAgainst, Traversal.mapM_eq_ok_map happlying]
  exact congrArg Except.ok (List.filterMap_map ..)

/-- When nobody stops the scan, the reports are made one after another. -/
theorem publish_silently {α ρ : Type} (wrap : ρ → Report) (make : α → Except Fault (Option ρ))
    (items : List α) :
    (publish (fun _ ↦ none) wrap make items).1 = (List.filterMap id ·) <$> items.mapM make := by
  induction items with
  | nil => rfl
  | cons item rest ih =>
    rw [publish, List.mapM_cons]
    cases make item with
    | error fault => rfl
    | ok report =>
      cases report with
      | none =>
        dsimp only
        rw [ih]
        cases rest.mapM make with
        | error fault => rfl
        | ok reports => rfl
      | some report =>
        dsimp only
        rw [ih]
        cases rest.mapM make with
        | error fault => rfl
        | ok reports => rfl

/-- The report about an asset, unless nothing is found against it. -/
def reportAbout? (detectors : List Detector) (asset : Asset) : Option AssetReport :=
  if (against detectors asset).isEmpty then none else some ⟨asset, against detectors asset⟩

theorem of_reportAbout? {detectors : List Detector} {asset : Asset} {report : AssetReport}
    (h : reportAbout? detectors asset = some report) :
    against detectors asset ≠ [] ∧ report = ⟨asset, against detectors asset⟩ := by
  unfold reportAbout? at h
  split at h
  · cases h
  · rename_i hfound
    exact ⟨mt List.isEmpty_iff.2 hfound, (Option.some.inj h).symm⟩

/-- Every detector can judge every asset to which it applies. -/
def Judged (detectors : List Detector) (assets : List Asset) : Prop :=
  ∀ detector ∈ detectors, ∀ asset ∈ assets, detector.appliesTo asset.kind →
    ∃ finding, findingOf detector asset = .ok finding

def outcomeByDetector (reports : List DetectorReport) : ScanOutcome :=
  ⟨(reports.map (·.result)).foldl Tally.merge {}, .byDetector reports⟩

def outcomeByAsset (reports : List AssetReport) : ScanOutcome :=
  ⟨Tally.ofFindings (reports.flatMap (·.findings)), .byAsset reports⟩

/-- The report of a detector that can judge all its assets. -/
def reportOf (stored : AssetKind → List Asset) (detector : Detector) : DetectorReport :=
  ⟨detector, detected detector (detector.kinds.flatMap stored),
    Tally.ofFindings (detected detector (detector.kinds.flatMap stored))⟩

theorem exists_fault_of_not_judged {detectors : List Detector} {assets : List Asset}
    (h : ¬Judged detectors assets) :
    ∃ detector ∈ detectors, ∃ asset ∈ assets, detector.appliesTo asset.kind ∧
      ∃ fault, findingOf detector asset = .error fault := by
  by_contra hnone
  apply h
  intro detector hdetector asset hasset happlies
  cases hfinding : findingOf detector asset with
  | ok finding => exact ⟨finding, rfl⟩
  | error fault => exact absurd ⟨detector, hdetector, asset, hasset, happlies, fault, hfinding⟩ hnone

/-- Whether a detector applies to an asset depends on the kind under which it stands. -/
theorem filter_appliesTo_flatMap (detector : Detector) {stored : AssetKind → List Asset}
    {kinds : List AssetKind} (hkinds : ∀ kind ∈ kinds, ∀ asset ∈ stored kind, asset.kind = kind) :
    (kinds.flatMap stored).filter (fun asset ↦ detector.appliesTo asset.kind) =
      (kinds.filter detector.appliesTo).flatMap stored := by
  apply Filtering.filter_flatMap_of_forall
  intro kind hkind asset hasset
  rw [hkinds kind hkind asset hasset]

section

variable {config : AuditConfig} {stored : AssetKind → List Asset}
  (hkinds : ∀ kind ∈ Detector.assetKinds config.detectors, ∀ asset ∈ stored kind, asset.kind = kind)

/-- All assets that a configured scan looks at. -/
def scope (config : AuditConfig) (stored : AssetKind → List Asset) : List Asset :=
  (Detector.assetKinds config.detectors).flatMap stored

theorem conclude_byAsset (h : Judged config.detectors (scope config stored)) :
    (conclude { config with groupByAsset := true } (fun _ ↦ none) stored).1 =
      .ok (outcomeByAsset ((scope config stored).filterMap (reportAbout? config.detectors))) := by
  have hreport : ∀ asset ∈ scope config stored,
      assetReport? config.detectors asset = .ok (reportAbout? config.detectors asset) := by
    intro asset hasset
    rw [assetReport?, findingsAgainst_eq fun detector hdetector ↦ h detector hdetector asset hasset]
    rfl
  have hpublished : (publish (fun _ ↦ none) Report.ofAsset (assetReport? config.detectors)
      (scope config stored)).1 =
        .ok ((scope config stored).filterMap (reportAbout? config.detectors)) := by
    rw [publish_silently, Traversal.mapM_eq_ok_map hreport]
    exact congrArg Except.ok (List.filterMap_map ..)
  exact congrArg (Except.map outcomeByAsset) hpublished

/-- A scan by asset fails when there is an asset that a detector cannot judge. -/
theorem conclude_byAsset_error (h : ¬Judged config.detectors (scope config stored)) :
    ∃ fault,
      (conclude { config with groupByAsset := true } (fun _ ↦ none) stored).1 = .error fault := by
  obtain ⟨detector, hdetector, asset, hasset, happlies, fault, hfault⟩ := exists_fault_of_not_judged h
  have hmem : detector ∈ config.detectors.filter fun other ↦ other.appliesTo asset.kind :=
    List.mem_filter.2 ⟨hdetector, happlies⟩
  obtain ⟨first, hfirst⟩ := Traversal.mapM_eq_error
    (f := fun other ↦ findingOf other asset) hmem hfault
  have hreport : assetReport? config.detectors asset = .error first := by
    rw [assetReport?, findingsAgainst, hfirst]
    rfl
  obtain ⟨final, hfinal⟩ := Traversal.mapM_eq_error hasset hreport
  have hpublished : (publish (fun _ ↦ none) Report.ofAsset (assetReport? config.detectors)
      (scope config stored)).1 = .error final := by
    rw [publish_silently, hfinal]
    rfl
  exact ⟨final, congrArg (Except.map outcomeByAsset) hpublished⟩

include hkinds

/-- Of the assets of all kinds a detector applies to those of its own kinds. -/
theorem filter_appliesTo_scope {detector : Detector} (hdetector : detector ∈ config.detectors) :
    (scope config stored).filter (fun asset ↦ detector.appliesTo asset.kind) =
      detector.kinds.flatMap stored := by
  have hall : ∀ other ∈ config.detectors, other ∈ Detector.all :=
    fun other hother ↦ config.detectors_sublist.subset hother
  rw [scope, filter_appliesTo_flatMap detector hkinds,
    Detector.assetKinds_filter_appliesTo hall hdetector]

theorem mem_kinds_flatMap {detector : Detector} (hdetector : detector ∈ config.detectors)
    {asset : Asset} :
    asset ∈ detector.kinds.flatMap stored ↔
      asset ∈ scope config stored ∧ detector.appliesTo asset.kind := by
  rw [← filter_appliesTo_scope hkinds hdetector, List.mem_filter]

theorem conclude_byDetector (h : Judged config.detectors (scope config stored)) :
    (conclude { config with groupByAsset := false } (fun _ ↦ none) stored).1 =
      .ok (outcomeByDetector (config.detectors.map (reportOf stored))) := by
  have hreport : ∀ detector ∈ config.detectors,
      (some <$> detectorReport stored detector : Except Fault (Option DetectorReport)) =
        .ok (some (reportOf stored detector)) := by
    intro detector hdetector
    rw [detectorReport, findingsOfDetector_eq]
    · rfl
    · intro asset hasset
      obtain ⟨hmem, happlies⟩ := (mem_kinds_flatMap hkinds hdetector).1 hasset
      exact h detector hdetector asset hmem happlies
  have hpublished : (publish (fun _ ↦ none) Report.ofDetector
      (fun detector ↦ some <$> detectorReport stored detector) config.detectors).1 =
        .ok (config.detectors.map (reportOf stored)) := by
    rw [publish_silently, Traversal.mapM_eq_ok_map hreport]
    refine congrArg Except.ok ?_
    dsimp only
    rw [List.filterMap_map]
    exact congrFun List.filterMap_eq_map _
  exact congrArg (Except.map outcomeByDetector) hpublished

/-- A scan by detector fails when there is an asset that a detector cannot judge. -/
theorem conclude_byDetector_error (h : ¬Judged config.detectors (scope config stored)) :
    ∃ fault,
      (conclude { config with groupByAsset := false } (fun _ ↦ none) stored).1 = .error fault := by
  obtain ⟨detector, hdetector, asset, hasset, happlies, fault, hfault⟩ := exists_fault_of_not_judged h
  obtain ⟨first, hfirst⟩ := Traversal.mapM_eq_error
    ((mem_kinds_flatMap hkinds hdetector).2 ⟨hasset, happlies⟩) hfault
  have hreport : (some <$> detectorReport stored detector : Except Fault (Option DetectorReport)) =
      .error first := by
    rw [detectorReport, findingsOfDetector, hfirst]
    rfl
  obtain ⟨final, hfinal⟩ := Traversal.mapM_eq_error
    (f := fun detector ↦ some <$> detectorReport stored detector) hdetector hreport
  have hpublished : (publish (fun _ ↦ none) Report.ofDetector
      (fun detector ↦ some <$> detectorReport stored detector) config.detectors).1 =
        .error final := by
    rw [publish_silently, hfinal]
    rfl
  exact ⟨final, congrArg (Except.map outcomeByDetector) hpublished⟩

end

end ClusterAudit.Scan
