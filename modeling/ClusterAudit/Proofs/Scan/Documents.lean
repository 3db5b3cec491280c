import ClusterAudit.Proofs.CommandLine.Positions
import ClusterAudit.Proofs.Manifest.Written
import ClusterAudit.Proofs.Scan.Returned
import ClusterAudit.Scan.Document
import Mathlib

/-!
# Documents that add up

The document of an outcome is read here as its readers get it: by the names of its fields.  Whatever
the source and whatever was selected, the document of a scan that returns adds up: the total counts
the findings that are listed, by the levels of their detectors; detectors are listed as they were
selected, each with a result that counts its own findings; assets are listed for their findings, with
the detectors in catalog order.
-/

namespace ClusterAudit

open Manifest

/-! ## Selected positions -/

def Selection.admits (selection : Selection) (position : Int) : Bool :=
  match selection with
  | none => true
  | some indices => indices.contains position

/-- The selected detectors by their positions, counted from one in each catalog: those of access
rights first, then those of isolation, then those of pod security policies. -/
def AuditConfig.chosen (config : AuditConfig) : List Detector :=
  [Catalog.rbac, Catalog.isolation, Catalog.podSecurity].flatMap fun catalog ↦
    ((catalog.detectors.zipIdx 1).filter fun entry ↦
      Selection.admits (config.selection catalog) entry.2).map (·.1)

theorem AuditConfig.detectors_eq_chosen (config : AuditConfig) : config.detectors = config.chosen := by
  unfold detectors chosen
  apply List.flatMap_congr
  intro catalog _
  unfold detectorsOf select
  cases config.selection catalog with
  | none =>
    simp [Selection.admits, List.zipIdx_map_fst]
  | some indices => exact selectFrom_eq indices 1 catalog.detectors

namespace Document

/-! ## Reading a document -/

/-- What a document has under a name, null when it has nothing there. -/
def under (name : String) (document : Value) : Value :=
  match document with
  | .map entries => (valueAt? entries (.text name)).getD .null
  | _ => .null

def itemsUnder (name : String) (document : Value) : List Value :=
  match under name document with
  | .list items => items
  | _ => []

def countUnder (name : String) (document : Value) : Nat :=
  match under name document with
  | .int count => count.toNat
  | _ => 0

/-- All findings that a document lists, each with the name of its detector: below the detectors, or
below the assets, where the findings name their detectors themselves. -/
def listed (document : Value) : List (Value × Value) :=
  ((itemsUnder "detectors" document).flatMap fun entry ↦
    (itemsUnder "findings" entry).map fun finding ↦ (under "name" entry, finding)) ++
  (itemsUnder "assets" document).flatMap fun entry ↦
    (itemsUnder "findings" entry).map fun finding ↦ (under "detector" finding, finding)

/-- Whether a detector of the catalogs has a name and a level. -/
def hasLevel (level : Level) (name : Value) : Bool :=
  Detector.all.any fun detector ↦ .text detector.name = name && detector.level = level

/-- The tally of so many findings of a level. -/
def tallyAt (level : Level) (count : Nat) : Tally :=
  match level with
  | .vulnerability => ⟨count, 0⟩
  | .warning => ⟨0, count⟩

/-- A document that lists the selected detectors, with results that count their own findings under
their own levels and that sum up to the total. -/
structure ListsDetectors (chosen : List Detector) (document : Value) : Prop where
  names_eq : (itemsUnder "detectors" document).map (under "name") =
    chosen.map fun detector ↦ .text detector.name
  names_nodup : (chosen.map (·.name)).Nodup
  result_eq : ∀ entry ∈ itemsUnder "detectors" document, ∃ detector ∈ chosen,
    under "name" entry = .text detector.name ∧ under "level" entry = .text detector.level.name ∧
      under "result" entry = ofTally (tallyAt detector.level (itemsUnder "findings" entry).length)
  sum_eq : ∀ count ∈ ["vulnerabilities", "warnings"], countUnder count (under "total" document) =
    ((itemsUnder "detectors" document).map fun entry ↦ countUnder count (under "result" entry)).sum

/-- A document that lists assets with findings, each with the names of their detectors in catalog
order. -/
structure ListsAssets (document : Value) : Prop where
  assets_eq : under "assets" document = .list (itemsUnder "assets" document)
  findings_ne_nil : ∀ entry ∈ itemsUnder "assets" document, itemsUnder "findings" entry ≠ []
  detectors_eq : ∀ entry ∈ itemsUnder "assets" document, ∃ names,
    under "detectors" entry = texts names ∧
      (itemsUnder "findings" entry).map (under "detector") = names.map .text ∧
      names.Nodup ∧ names.Sublist (Detector.all.map (·.name))

/-- A document of a configured scan whose parts agree with each other. -/
structure AddsUp (config : AuditConfig) (document : Value) : Prop where
  total_eq : under "total" document =
    ofTally ⟨(listed document).countP fun entry ↦ hasLevel .vulnerability entry.1,
      (listed document).countP fun entry ↦ hasLevel .warning entry.1⟩
  backed : ∀ entry ∈ listed document, itemsUnder "details" entry.2 ≠ [] ∧
    ∃ detector ∈ Detector.all, entry.1 = .text detector.name ∧
      ∃ kind ∈ detector.kinds, under "kind" entry.2 = .text kind.name
  byDetector : config.groupByAsset = false → ListsDetectors config.chosen document
  byAsset : config.groupByAsset = true → ListsAssets document

/-! ## Fields of documents -/

/-- A record has under a name what its first field of this name has. -/
theorem under_record (name : String) (fields : List (String × Value)) :
    under name (record fields) =
      ((fields.find? fun field ↦ field.1 = name).map (·.2)).getD .null := by
  rw [record, under, valueAt?, List.find?_map, Option.map_map]
  simp only [Function.comp_def, Scalar.same_text]

/-- How a finding is written in documents of this grouping. -/
def writeFinding : Reports → Finding → Value
  | .byDetector _ => findingOfDetector
  | .byAsset _ => findingOfAsset

theorem under_kind_writeFinding (reports : Reports) (finding : Finding) :
    under "kind" (writeFinding reports finding) = .text finding.asset.kind.name := by
  cases reports with
  | byDetector _ => simp [writeFinding, findingOfDetector, under_record]
  | byAsset _ => simp [writeFinding, findingOfAsset, under_record]

theorem itemsUnder_details_writeFinding (reports : Reports) {finding : Finding}
    (h : finding.details ≠ []) : itemsUnder "details" (writeFinding reports finding) ≠ [] := by
  cases reports with
  | byDetector _ => simpa [writeFinding, findingOfDetector, itemsUnder, under_record, ofDetails] using h
  | byAsset _ => simpa [writeFinding, findingOfAsset, itemsUnder, under_record, ofDetails] using h

theorem itemsUnder_detectors_draft (result : Tally) (reports : List DetectorReport)
    (madeAt : Moment) :
    itemsUnder "detectors" (draft ⟨result, .byDetector reports⟩ madeAt) =
      reports.map ofDetectorReport := by
  simp [itemsUnder, draft, ofReports, under_record]

theorem under_assets_draft (result : Tally) (reports : List AssetReport) (madeAt : Moment) :
    under "assets" (draft ⟨result, .byAsset reports⟩ madeAt) =
      .list (reports.map ofAssetReport) := by
  simp [draft, ofReports, under_record]

theorem itemsUnder_assets_draft (result : Tally) (reports : List AssetReport) (madeAt : Moment) :
    itemsUnder "assets" (draft ⟨result, .byAsset reports⟩ madeAt) =
      reports.map ofAssetReport := by
  rw [itemsUnder, under_assets_draft]

theorem itemsUnder_assets_byDetector (result : Tally) (reports : List DetectorReport)
    (madeAt : Moment) :
    itemsUnder "assets" (draft ⟨result, .byDetector reports⟩ madeAt) = [] := by
  simp [itemsUnder, draft, ofReports, under_record]

theorem itemsUnder_detectors_byAsset (result : Tally) (reports : List AssetReport)
    (madeAt : Moment) :
    itemsUnder "detectors" (draft ⟨result, .byAsset reports⟩ madeAt) = [] := by
  simp [itemsUnder, draft, ofReports, under_record]

theorem itemsUnder_findings_ofDetectorReport (report : DetectorReport) :
    itemsUnder "findings" (ofDetectorReport report) = report.findings.map findingOfDetector := by
  simp [itemsUnder, ofDetectorReport, detectorFields, under_record]

theorem itemsUnder_findings_ofAssetReport (report : AssetReport) :
    itemsUnder "findings" (ofAssetReport report) = report.findings.map findingOfAsset := by
  simp [itemsUnder, ofAssetReport, under_record]

theorem under_total_draft (outcome : ScanOutcome) (madeAt : Moment) :
    under "total" (draft outcome madeAt) = ofTally outcome.result := by
  simp [draft, under_record]

/-- Reports whose findings are all of the detector or of the asset that they are about. -/
def Attributed : Reports → Prop
  | .byDetector reports => ∀ report ∈ reports, ∀ finding ∈ report.findings,
      finding.detector = report.detector
  | .byAsset reports => ∀ report ∈ reports, ∀ finding ∈ report.findings,
      finding.asset = report.asset

/-- A document lists the findings of all reports, in their order. -/
theorem listed_draft {outcome : ScanOutcome} (h : Attributed outcome.reports) (madeAt : Moment) :
    listed (draft outcome madeAt) = outcome.reports.findings.map fun finding ↦
      (.text finding.detector.name, writeFinding outcome.reports finding) := by
  obtain ⟨result, reports⟩ := outcome
  cases reports with
  | byDetector reports =>
    rw [listed, itemsUnder_assets_byDetector, itemsUnder_detectors_draft, List.flatMap_nil,
      List.append_nil, List.flatMap_map, Reports.findings, List.map_flatMap]
    apply List.flatMap_congr
    intro report hreport
    have hname : under "name" (ofDetectorReport report) = .text report.detector.name := by
      simp [ofDetectorReport, detectorFields, under_record]
    rw [itemsUnder_findings_ofDetectorReport, hname, List.map_map]
    apply List.map_congr_left
    intro finding hfinding
    rw [h report hreport finding hfinding]
    rfl
  | byAsset reports =>
    rw [listed, itemsUnder_detectors_byAsset, itemsUnder_assets_draft, List.flatMap_nil,
      List.nil_append, List.flatMap_map, Reports.findings, List.map_flatMap]
    apply List.flatMap_congr
    intro report _
    simp [itemsUnder_findings_ofAssetReport, under_record, findingOfAsset, writeFinding]

/-! ## Counts -/

theorem countUnder_vulnerabilities (tally : Tally) :
    countUnder "vulnerabilities" (ofTally tally) = tally.vulnerabilities := by
  simp [countUnder, ofTally, under_record]

theorem countUnder_warnings (tally : Tally) :
    countUnder "warnings" (ofTally tally) = tally.warnings := by
  simp [countUnder, ofTally, under_record]

theorem under_result_ofDetectorReport (report : DetectorReport) :
    under "result" (ofDetectorReport report) = ofTally report.result := by
  simp [ofDetectorReport, detectorFields, under_record]

theorem hasLevel_name {detector : Detector} (h : detector ∈ Detector.all) (level : Level) :
    hasLevel level (.text detector.name) = decide (detector.level = level) := by
  rw [Bool.eq_iff_iff, hasLevel, List.any_eq_true, decide_eq_true_iff]
  constructor
  · rintro ⟨other, hother, hsame⟩
    obtain ⟨hname, hlevel⟩ : other.name = detector.name ∧ other.level = level := by simpa using hsame
    rw [← List.inj_on_of_nodup_map Detector.all_names_nodup hother h hname]
    exact hlevel
  · intro hlevel
    exact ⟨detector, h, by simp [hlevel]⟩

theorem countP_listed {config : AuditConfig} {outcome : ScanOutcome}
    (haccounted : Scan.Accounted config outcome) (h : Attributed outcome.reports) (madeAt : Moment)
    (level : Level) :
    ((listed (draft outcome madeAt)).countP fun entry ↦ hasLevel level entry.1) =
      outcome.reports.findings.countP fun finding ↦ finding.detector.level = level := by
  rw [listed_draft h, List.countP_map]
  apply List.countP_congr
  intro finding hfinding
  have hall : finding.detector ∈ Detector.all :=
    config.detectors_sublist.subset (haccounted.backed finding hfinding).detector_mem
  simp [hasLevel_name hall]

/-- Findings of one level are counted under it. -/
theorem tallyAt_eq {findings : List Finding} {level : Level}
    (h : ∀ finding ∈ findings, finding.detector.level = level) :
    Tally.ofFindings findings = tallyAt level findings.length := by
  have hcount (other : Level) : (findings.countP fun finding ↦ finding.detector.level = other) =
      if level = other then findings.length else 0 := by
    split
    · rename_i hsame
      rw [List.countP_eq_length]
      intro finding hfinding
      simp [h finding hfinding, hsame]
    · rename_i hne
      rw [List.countP_eq_zero]
      intro finding hfinding
      simp [h finding hfinding, hne]
  rw [Tally.ofFindings_eq_countP, hcount, hcount]
  cases level with
  | vulnerability => rfl
  | warning => rfl

theorem foldl_merge_eq (tallies : List Tally) (before : Tally) :
    tallies.foldl Tally.merge before =
      ⟨before.vulnerabilities + (tallies.map (·.vulnerabilities)).sum,
        before.warnings + (tallies.map (·.warnings)).sum⟩ := by
  induction tallies generalizing before with
  | nil => rfl
  | cons tally rest ih =>
    rw [List.foldl_cons, ih]
    simp [Tally.merge, Nat.add_assoc]

/-! ## Documents of scans -/

open Scan

section

variable (config : AuditConfig) (stored : AssetKind → List Asset) (madeAt : Moment)

theorem listsDetectors : ListsDetectors config.chosen
    (draft (outcomeByDetector (config.detectors.map (reportOf stored))) madeAt) where
  names_eq := by
    rw [outcomeByDetector, itemsUnder_detectors_draft, List.map_map, List.map_map,
      config.detectors_eq_chosen]
    apply List.map_congr_left
    intro detector _
    simp [ofDetectorReport, detectorFields, under_record, reportOf]
  names_nodup := config.detectors_eq_chosen ▸ detectors_names_nodup config
  result_eq := by
    rw [outcomeByDetector, itemsUnder_detectors_draft, List.map_map]
    intro entry hentry
    obtain ⟨detector, hdetector, rfl⟩ := List.mem_map.1 hentry
    refine ⟨detector, config.detectors_eq_chosen ▸ hdetector, ?_, ?_, ?_⟩
    · simp [ofDetectorReport, detectorFields, under_record, reportOf]
    · simp [ofDetectorReport, detectorFields, under_record, reportOf]
    · have hlevel : ∀ finding ∈ (reportOf stored detector).findings,
          finding.detector.level = detector.level := by
        intro finding hfinding
        rw [(backed_of_mem_reportOf hdetector hfinding).2]
      have hresult : (reportOf stored detector).result =
          tallyAt detector.level (reportOf stored detector).findings.length := tallyAt_eq hlevel
      simp [ofDetectorReport, detectorFields, itemsUnder, under_record, hresult]
  sum_eq := by
    rw [outcomeByDetector, itemsUnder_detectors_draft, under_total_draft, foldl_merge_eq]
    simp [countUnder_vulnerabilities, countUnder_warnings, under_result_ofDetectorReport,
      Function.comp_def]

theorem listsAssets : ListsAssets (draft (outcomeByAsset ((scope config stored).filterMap
    (reportAbout? config.detectors))) madeAt) := by
  have hitems : itemsUnder "assets" (draft (outcomeByAsset ((scope config stored).filterMap
      (reportAbout? config.detectors))) madeAt) =
        ((scope config stored).filterMap (reportAbout? config.detectors)).map ofAssetReport := by
    rw [outcomeByAsset, itemsUnder_assets_draft]
  have hentry : ∀ entry ∈ ((scope config stored).filterMap
      (reportAbout? config.detectors)).map ofAssetReport, ∃ asset,
        against config.detectors asset ≠ [] ∧
          entry = ofAssetReport ⟨asset, against config.detectors asset⟩ := by
    intro entry hmem
    obtain ⟨report, hreport, rfl⟩ := List.mem_map.1 hmem
    obtain ⟨asset, -, habout⟩ := List.mem_filterMap.1 hreport
    obtain ⟨hfound, rfl⟩ := of_reportAbout? habout
    exact ⟨asset, hfound, rfl⟩
  refine ⟨?_, ?_, ?_⟩
  · rw [hitems, outcomeByAsset, under_assets_draft]
  · rw [hitems]
    intro entry hmem
    obtain ⟨asset, hne, rfl⟩ := hentry entry hmem
    simpa [itemsUnder_findings_ofAssetReport] using hne
  · rw [hitems]
    intro entry hmem
    obtain ⟨asset, -, rfl⟩ := hentry entry hmem
    have hsublist := (names_against_sublist config.detectors asset).trans
      (config.detectors_sublist.map (·.name))
    refine ⟨(against config.detectors asset).map (·.detector.name), ?_, ?_,
      Detector.all_names_nodup.sublist hsublist, hsublist⟩
    · simp [ofAssetReport, under_record, AssetReport.detectorNames]
    · rw [itemsUnder_findings_ofAssetReport, List.map_map, List.map_map]
      apply List.map_congr_left
      intro finding _
      simp [findingOfAsset, under_record]

end

theorem attributed_of_conclude {config : AuditConfig} {audience : Audience}
    {stored : AssetKind → List Asset} {outcome : ScanOutcome}
    (h : (conclude config audience stored).1 = .ok outcome) : Attributed outcome.reports := by
  rw [outcome_eq_of_conclude h]
  split
  · intro report hreport finding hfinding
    obtain ⟨asset, -, habout⟩ := List.mem_filterMap.1 hreport
    obtain ⟨-, rfl⟩ := of_reportAbout? habout
    obtain ⟨detector, -, hfound⟩ := List.mem_filterMap.1 hfinding
    exact (of_found? hfound).2
  · intro report hreport finding hfinding
    obtain ⟨detector, hdetector, rfl⟩ := List.mem_map.1 hreport
    exact (backed_of_mem_reportOf hdetector hfinding).2

/-- There is a document of an outcome when the names of all assets in it can be written. -/
theorem ofOutcome_isOk_iff {outcome : ScanOutcome} {madeAt : Moment} :
    (ofOutcome outcome madeAt).isOk = true ↔
      ∀ asset ∈ namedAssets outcome.reports, asset.writtenName.isOk = true := by
  unfold ofOutcome Asset.writtenName
  simp only [Value.written_isOk_iff, List.mem_flatMap]
  exact ⟨fun h asset hasset part hpart ↦ h part ⟨asset, hasset, hpart⟩,
    fun h part ⟨asset, hasset, hpart⟩ ↦ h asset hasset part hpart⟩

theorem addsUp_draft {σ : Type} {inventory : Inventory σ} {s : InventoryState σ} {config : AuditConfig}
    {audience : Audience} {outcome : ScanOutcome}
    (h : ((run config inventory audience).run s).1 = .ok outcome) (madeAt : Moment) :
    AddsUp config (draft outcome madeAt) := by
  obtain ⟨stored, hconclude⟩ := exists_conclude_of_run h
  have haccounted := accounted_of_conclude hconclude
  have hattributed := attributed_of_conclude hconclude
  have houtcome := outcome_eq_of_conclude hconclude
  refine ⟨?_, ?_, ?_, ?_⟩
  · rw [under_total_draft, countP_listed haccounted hattributed,
      countP_listed haccounted hattributed, haccounted.result_eq, Tally.ofFindings_eq_countP]
  · rw [listed_draft hattributed]
    intro entry hentry
    obtain ⟨finding, hfinding, rfl⟩ := List.mem_map.1 hentry
    have hbacked := haccounted.backed finding hfinding
    exact ⟨itemsUnder_details_writeFinding outcome.reports hbacked.details_ne_nil,
      finding.detector, config.detectors_sublist.subset hbacked.detector_mem, rfl,
      finding.asset.kind, hbacked.kind_mem, under_kind_writeFinding outcome.reports finding⟩
  · intro hgroup
    rw [houtcome, hgroup, if_neg Bool.false_ne_true]
    exact listsDetectors config stored madeAt
  · intro hgroup
    rw [houtcome, hgroup, if_pos rfl]
    exact listsAssets config stored madeAt

end Document

end ClusterAudit
