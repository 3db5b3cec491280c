import ClusterAudit.Proofs.Inventory.ReadOff
import ClusterAudit.Proofs.Scan.Agreement

/-!
# Completed scans

A scan that completes has judged everything, whoever took its reports and however they were grouped:
of every detector it has the findings against the assets of its kinds, as these are read off the
stock, and its counts are those of all these findings.
-/

namespace ClusterAudit

/-- All findings in some reports, in their order. -/
def Reports.findings : Reports → List Finding
  | byDetector reports => reports.flatMap (·.findings)
  | byAsset reports => reports.flatMap (·.findings)

def Reports.each : Reports → List Report
  | byDetector reports => reports.map .ofDetector
  | byAsset reports => reports.map .ofAsset

/-- The findings that a scan has of a detector, in the order in which they were reported. -/
def ScanOutcome.findingsOf (outcome : ScanOutcome) (detector : Detector) : List Finding :=
  outcome.reports.findings.filter fun finding ↦ finding.detector.name = detector.name

namespace Scan

open Filtering Inventory Manifest SourceM Traversal

/-! ## Reports that are handed on -/

/-- What an audience gets of some reports, up to the first one with which it ends the scan, and the fault
of this end. -/
def handedOn (audience : Audience) : List Report → List Report × Option Fault
  | [] => ([], none)
  | report :: rest =>
    match audience report with
    | some fault => ([report], some fault)
    | none => (report :: (handedOn audience rest).1, (handedOn audience rest).2)

theorem handedOn_prefix (audience : Audience) (reports : List Report) :
    (handedOn audience reports).1 <+: reports := by
  induction reports with
  | nil => exact List.prefix_rfl
  | cons report rest ih =>
    rw [handedOn]
    split
    · exact List.prefix_cons_inj report |>.2 List.nil_prefix
    · exact List.prefix_cons_inj report |>.2 ih

theorem handedOn_of_taken {audience : Audience} {reports : List Report}
    (h : ∀ report ∈ reports, audience report = none) : handedOn audience reports = (reports, none) := by
  induction reports with
  | nil => rfl
  | cons report rest ih =>
    obtain ⟨hreport, hrest⟩ := List.forall_mem_cons.1 h
    rw [handedOn, hreport, ih hrest]

theorem taken_of_handedOn {audience : Audience} {reports : List Report}
    (h : (handedOn audience reports).2 = none) : ∀ report ∈ reports, audience report = none := by
  induction reports with
  | nil => exact List.forall_mem_nil _
  | cons report rest ih =>
    rw [handedOn] at h
    split at h
    · cases h
    · rename_i hreport
      exact List.forall_mem_cons.2 ⟨hreport, ih h⟩

/-- How the making of something ends when its reports are handed on to an audience. -/
def endedBy {α : Type} (made : α) : Option Fault → Except Fault α
  | none => .ok made
  | some fault => .error fault

/-- Reports that were made for one audience are made for another one up to the first one with which it
ends the scan. -/
theorem publish_of_made {α ρ : Type} {audience : Audience} {wrap : ρ → Report}
    {make : α → Except Fault (Option ρ)} {items : List α} {reports : List ρ}
    (h : (publish audience wrap make items).1 = .ok reports) (other : Audience) :
    publish other wrap make items = (endedBy reports (handedOn other (reports.map wrap)).2,
      (handedOn other (reports.map wrap)).1) := by
  induction items generalizing reports with
  | nil =>
    cases h
    rfl
  | cons item rest ih =>
    rw [publish] at h ⊢
    cases hitem : make item with
    | error fault =>
      rw [hitem] at h
      cases h
    | ok made =>
      rw [hitem] at h
      cases made with
      | none => exact ih h
      | some report =>
        dsimp only at h ⊢
        cases haudience : audience (wrap report) with
        | some fault =>
          rw [haudience] at h
          cases h
        | none =>
          rw [haudience] at h
          obtain ⟨later, hlater, rfl⟩ := map_eq_ok h
          rw [List.map_cons, handedOn, ih hlater]
          cases other (wrap report) with
          | some fault => rfl
          | none => cases (handedOn other (later.map wrap)).2 <;> rfl

section

variable {config : AuditConfig} {audience : Audience} {stored : AssetKind → List Asset}
  {outcome : ScanOutcome}

/-- A scan that returns an outcome to one audience hands its reports on to another one, up to the first
one with which that one ends the scan. -/
theorem conclude_of_made (h : (conclude config audience stored).1 = .ok outcome) (other : Audience) :
    conclude config other stored = (endedBy outcome (handedOn other outcome.reports.each).2,
      (handedOn other outcome.reports.each).1) := by
  unfold conclude at h ⊢
  split at h
  · rename_i hgroup
    obtain ⟨reports, hreports, rfl⟩ := map_eq_ok h
    rw [if_pos hgroup]
    dsimp only [Reports.each]
    rw [publish_of_made hreports other]
    cases (handedOn other (reports.map .ofAsset)).2 <;> rfl
  · rename_i hgroup
    obtain ⟨reports, hreports, rfl⟩ := map_eq_ok h
    rw [if_neg hgroup]
    dsimp only [Reports.each]
    rw [publish_of_made hreports other]
    cases (handedOn other (reports.map .ofDetector)).2 <;> rfl

/-- A scan that returns an outcome to one audience returns it to another one that takes all of its
reports. -/
theorem conclude_of_taken {other : Audience} (h : (conclude config audience stored).1 = .ok outcome)
    (htaken : ∀ report ∈ outcome.reports.each, other report = none) :
    (conclude config other stored).1 = .ok outcome := by
  rw [conclude_of_made h, handedOn_of_taken htaken]
  rfl

/-- What is reported by a scan that returns is its outcome, and all of it was taken. -/
theorem taken_of_conclude (h : (conclude config audience stored).1 = .ok outcome) :
    (conclude config audience stored).2 = outcome.reports.each ∧
      ∀ report ∈ outcome.reports.each, audience report = none := by
  have hmade := conclude_of_made h audience
  rw [hmade] at h
  have htaken : ∀ report ∈ outcome.reports.each, audience report = none := by
    refine taken_of_handedOn ?_
    cases hfault : (handedOn audience outcome.reports.each).2 with
    | none => rfl
    | some fault =>
      rw [hfault] at h
      cases h
  rw [hmade, handedOn_of_taken htaken]
  exact ⟨rfl, htaken⟩

end

/-! ## Findings of one detector -/

section

variable {config : AuditConfig} {stored : AssetKind → List Asset}

theorem findingsOf_outcomeByDetector {detector : Detector} (hdetector : detector ∈ config.detectors) :
    (outcomeByDetector (config.detectors.map (reportOf stored))).findingsOf detector =
      detected detector (detector.kinds.flatMap stored) := by
  have hname : ∀ other ∈ config.detectors, ∀ finding ∈ (reportOf stored other).findings,
      decide (finding.detector.name = detector.name) = decide (other.name = detector.name) := by
    intro other _ finding hfinding
    obtain ⟨asset, -, hfound⟩ := List.mem_filterMap.1 hfinding
    rw [(of_found? hfound).1]
  have hfindings : (outcomeByDetector (config.detectors.map (reportOf stored))).reports.findings =
      config.detectors.flatMap fun other ↦ (reportOf stored other).findings :=
    List.flatMap_map ..
  rw [ScanOutcome.findingsOf, hfindings, filter_flatMap_of_forall hname,
    filter_name_eq_singleton (detectors_names_nodup config) hdetector]
  exact List.append_nil _

variable (hkinds : ∀ kind ∈ Detector.assetKinds config.detectors, ∀ asset ∈ stored kind,
  asset.kind = kind)

include hkinds

theorem findingsOf_outcomeByAsset {detector : Detector} (hdetector : detector ∈ config.detectors) :
    (outcomeByAsset ((scope config stored).filterMap
        (reportAbout? config.detectors))).findingsOf detector =
      detected detector (detector.kinds.flatMap stored) := by
  rw [detected_kinds_eq hkinds hdetector, ← flatMap_findings_reportAbout?]
  rfl

/-- Whatever the grouping, a scan that completes has the findings of every detector against the
assets of its kinds, and counts just these. -/
theorem findingsOf_of_conclude {audience : Audience} {outcome : ScanOutcome}
    (h : (conclude config audience stored).1 = .ok outcome) :
    (∀ detector ∈ config.detectors,
      outcome.findingsOf detector = detected detector (detector.kinds.flatMap stored)) ∧
    outcome.result = Tally.ofFindings (config.detectors.flatMap outcome.findingsOf) := by
  have hsilent : (conclude config (fun _ ↦ none) stored).1 = .ok outcome :=
    conclude_of_taken h fun _ _ ↦ rfl
  have hfindings : (∀ detector ∈ config.detectors,
      outcome.findingsOf detector = detected detector (detector.kinds.flatMap stored)) ∧
      outcome.result = (outcomeByDetector (config.detectors.map (reportOf stored))).result := by
    cases hgroup : config.groupByAsset with
    | false =>
      rw [show config = { config with groupByAsset := false } by rw [← hgroup]] at hsilent
      by_cases hjudged : Judged config.detectors (scope config stored)
      · rw [conclude_byDetector hkinds hjudged] at hsilent
        cases hsilent
        exact ⟨fun detector hdetector ↦ findingsOf_outcomeByDetector hdetector, rfl⟩
      · obtain ⟨fault, hfault⟩ := conclude_byDetector_error hkinds hjudged
        rw [hfault] at hsilent
        cases hsilent
    | true =>
      rw [show config = { config with groupByAsset := true } by rw [← hgroup]] at hsilent
      by_cases hjudged : Judged config.detectors (scope config stored)
      · rw [conclude_byAsset hjudged] at hsilent
        cases hsilent
        exact ⟨fun detector hdetector ↦ findingsOf_outcomeByAsset hkinds hdetector,
          (result_outcomeByDetector hkinds).symm⟩
      · obtain ⟨fault, hfault⟩ := conclude_byAsset_error hjudged
        rw [hfault] at hsilent
        cases hsilent
  obtain ⟨hdetectors, hresult⟩ := hfindings
  refine ⟨hdetectors, ?_⟩
  rw [hresult, result_outcomeByDetector_eq, List.flatMap_congr hdetectors]

end

/-! ## Completed scans over fixed contents -/

variable {σ : Type}

/-- What a completed scan of fixed contents says about them. -/
structure Completed (inventory : Inventory σ) (contents : AssetKind → Except Fault (List Value))
    (config : AuditConfig) (outcome : ScanOutcome) : Prop where
  /-- Everything that the detectors look at is made of primary kinds that are in stock. -/
  stock_eq : ∀ kind ∈ Detector.assetKinds config.detectors, ∀ source ∈ kind.sources,
    inventory.stock contents source = .ok (inventory.stocked contents source)
  findingsOf_eq : ∀ detector ∈ config.detectors, outcome.findingsOf detector =
    detected detector (detector.kinds.flatMap (inventory.readOffStock contents))
  result_eq : outcome.result = Tally.ofFindings (config.detectors.flatMap outcome.findingsOf)

section

variable {inventory : Inventory σ} {list : AssetKind → SourceM σ (List Value)}
  {defaultNames : AssetKind → List String} {start : σ}
  {contents : AssetKind → Except Fault (List Value)} {s : InventoryState σ}
  (hsource : inventory.source = .ofManifests list defaultNames) (hfixed : Fixed list start contents)
  (h : inventory.Faithful list start contents s) {config : AuditConfig} {audience : Audience}

include hsource hfixed h

theorem completed_of_run {outcome : ScanOutcome}
    (hrun : ((run config inventory audience).run s).1 = .ok outcome) :
    Completed inventory contents config outcome := by
  rw [run_result hsource hfixed h] at hrun
  obtain ⟨_, hprovided, hconclude⟩ := bind_eq_ok hrun
  obtain ⟨_, hrequired, hprovided⟩ := bind_eq_ok hprovided
  obtain ⟨_, hkinds, -⟩ := bind_eq_ok hprovided
  have htable : ∀ kind ∈ Detector.assetKinds config.detectors,
      (inventory.table contents kind).toOption.getD [] = inventory.readOffStock contents kind := by
    intro kind hkind
    obtain ⟨assets, hassets⟩ := exists_ok_of_mapM hkinds hkind
    rw [← eq_readOffStock_of_table hassets, hassets]
    rfl
  obtain ⟨hfindings, hresult⟩ := findingsOf_of_conclude
    (fun kind _ asset hasset ↦ kind_of_mem_table hasset) hconclude
  refine ⟨?_, ?_, hresult⟩
  · intro kind hkind source hmem
    obtain ⟨assets, hassets⟩ :=
      exists_ok_of_mapM hrequired (mem_requiredKinds.2 ⟨kind, hkind, hmem⟩)
    rw [table_of_primary (AssetKind.sources_primary hmem)] at hassets
    rw [stocked, hassets]
    rfl
  · intro detector hdetector
    rw [hfindings detector hdetector]
    congr 1
    apply List.flatMap_congr
    intro kind hkind
    exact htable kind (Detector.mem_assetKinds.2 ⟨detector, hdetector, hkind⟩)

/-- With all primary kinds in stock, and keys for the names of nodes, a scan can be computed without
the indexes of nodes and pods. -/
theorem run_result_of_resolvable (hkeys : Resolvable (inventory.stocked contents))
    (hstock : ∀ kind ∈ AssetKind.primary, (inventory.stock contents kind).isOk = true) :
    ((run config inventory audience).run s).1 =
      (conclude config audience (inventory.readOffStock contents)).1 := by
  have htable := table_eq_readOffStock hkeys hstock
  rw [run_result hsource hfixed h, provided, mapM_eq_ok_map fun kind _ ↦ htable kind,
    mapM_eq_ok_map fun kind _ ↦ htable kind]
  have hstored : (fun kind ↦ (inventory.table contents kind).toOption.getD []) =
      inventory.readOffStock contents := by
    funext kind
    rw [htable kind]
    rfl
  rw [hstored]
  rfl

end

end Scan

end ClusterAudit
