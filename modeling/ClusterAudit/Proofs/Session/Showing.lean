import ClusterAudit.Proofs.Session.Reporting

/-!
# Reports that are shown

What the console is handed of a scan is what the document of its outcome says, although the reports are
printed one by one during the scan and the document is made of the outcome afterwards.  The rows of the
tables, the result lines and the counts at the end are read off the document here, so that they are the
same under all settings.  A console that refuses an item ends the scan there.
-/

namespace ClusterAudit

open Console Manifest

/-! ## Outcomes whose cells are texts or null -/

/-- What stands before the evidence of a finding: the asset below detectors, and the detector below
assets. -/
def Reports.label : Reports → Finding → Value
  | byDetector _, finding => finding.asset.name
  | byAsset _, finding => .text finding.detector.name

/-- An outcome whose tables can be printed. -/
def ScanOutcome.IsShowable (outcome : ScanOutcome) : Prop :=
  ∀ finding ∈ outcome.reports.findings, Console.IsShowable outcome.reports.label finding

instance (outcome : ScanOutcome) : Decidable outcome.IsShowable :=
  inferInstanceAs (Decidable (∀ finding ∈ outcome.reports.findings,
    Console.IsShowable outcome.reports.label finding))

namespace ScanOutcome.IsShowable

variable {result : Tally}

theorem of_mem_byDetector {reports : List DetectorReport}
    (h : IsShowable ⟨result, .byDetector reports⟩) {report : DetectorReport}
    (hreport : report ∈ reports) :
    ∀ finding ∈ report.findings, Console.IsShowable (·.asset.name) finding :=
  fun finding hfinding ↦ h finding (List.mem_flatMap.2 ⟨report, hreport, hfinding⟩)

theorem of_mem_byAsset {reports : List AssetReport} (h : IsShowable ⟨result, .byAsset reports⟩)
    {report : AssetReport} (hreport : report ∈ reports) :
    ∀ finding ∈ report.findings, Console.IsShowable (.text ·.detector.name) finding :=
  fun finding hfinding ↦ h finding (List.mem_flatMap.2 ⟨report, hreport, hfinding⟩)

/-- Cells that are texts or null are printed unless an integer beside them has too many digits. -/
theorem fault_eq {outcome : ScanOutcome} (h : outcome.IsShowable) {settings : Settings} {fault : Fault}
    (hfault : (printReports settings outcome.reports.each).fault = some fault) :
    fault = .numeralTooLong none := by
  obtain ⟨report, hreport, hfault⟩ := exists_of_printReports hfault
  obtain ⟨result, reports⟩ := outcome
  cases reports with
  | byDetector reports =>
    obtain ⟨made, hmade, rfl⟩ := List.mem_map.1 hreport
    exact fault_eq_of_printDetectorReport (h.of_mem_byDetector hmade) hfault
  | byAsset reports =>
    obtain ⟨made, hmade, rfl⟩ := List.mem_map.1 hreport
    exact fault_eq_of_printAssetReport (h.of_mem_byAsset hmade) hfault

end ScanOutcome.IsShowable

namespace Document

/-! ## What a document calls for -/

/-- The rows for a finding of a document, one for each piece of evidence; the first one has what the
finding has under the name of a label. -/
def findingRows (label : String) (finding : Value) : List (List String) :=
  (itemsUnder "details" finding).mapIdx fun position detail ↦
    labelledRow (under label finding) position (under "key" detail) (under "value" detail)

def entryRows (label : String) (entry : Value) : List (List String) :=
  (itemsUnder "findings" entry).flatMap (findingRows label)

def rows (document : Value) : List (List String) :=
  (itemsUnder "detectors" document).flatMap (entryRows "asset") ++
    (itemsUnder "assets" document).flatMap (entryRows "detector")

/-- Printed items that show a detector of a document. -/
structure ShowsDetector (entry : Value) (block : List Printed) : Prop where
  rows_eq : tableRows block = entryRows "asset" entry
  table_iff : (∃ rows, rows ∈ block.filterMap tableRows?) ↔ itemsUnder "findings" entry ≠ []
  /-- The result line is the last text. -/
  result_eq : (block.filterMap styledText?).getLast? =
    some (resultText (countUnder "vulnerabilities" (under "result" entry))
      (countUnder "warnings" (under "result" entry)))
  nothing_iff : (block.filterMap styledText?).getLast? = some "No misconfigurations found." ↔
    countUnder "vulnerabilities" (under "result" entry) = 0 ∧
      countUnder "warnings" (under "result" entry) = 0

/-- Printed items that show an asset of a document, with one table. -/
def ShowsAsset (entry : Value) (block : List Printed) : Prop :=
  block.filterMap tableRows? = [entryRows "detector" entry]

/-- Printed reports and a summary that show a document. -/
structure Shows (document : Value) (printing closing : Printing) : Prop where
  rows_eq : tableRows printing.items = rows document
  /-- The detectors or the assets are shown one after another. -/
  blocks : ∃ detectorBlocks assetBlocks,
    printing.items = detectorBlocks.flatten ++ assetBlocks.flatten ∧
      List.Forall₂ ShowsDetector (itemsUnder "detectors" document) detectorBlocks ∧
      List.Forall₂ ShowsAsset (itemsUnder "assets" document) assetBlocks
  summary_eq : closing.fault = none → closing.items.map styledText? =
    (summaryTexts (countUnder "vulnerabilities" (under "total" document))
      (countUnder "warnings" (under "total" document))).map some

/-! ## Rows of documents -/

/-- A finding that lists its evidence calls for the rows that are printed for it. -/
theorem findingRows_of_details {label : String} {finding : Value} {details : List Detail}
    (h : under "details" finding = ofDetails details) :
    findingRows label finding = rowsOf (under label finding) details := by
  rw [findingRows, itemsUnder, h, rowsOf]
  exact List.ext_getElem (by simp [ofDetails]) fun position _ _ ↦ by simp [ofDetails, under_record]

theorem entryRows_ofDetectorReport (report : DetectorReport) :
    entryRows "asset" (ofDetectorReport report) =
      report.findings.flatMap fun finding ↦ rowsOf finding.asset.name finding.details := by
  rw [entryRows, itemsUnder_findings_ofDetectorReport, List.flatMap_map]
  refine List.flatMap_congr fun finding _ ↦ ?_
  have hdetails : under "details" (findingOfDetector finding) = ofDetails finding.details := by
    simp [findingOfDetector, under_record]
  rw [findingRows_of_details hdetails]
  simp [findingOfDetector, under_record]

theorem entryRows_ofAssetReport (report : AssetReport) :
    entryRows "detector" (ofAssetReport report) =
      report.findings.flatMap fun finding ↦ rowsOf (.text finding.detector.name) finding.details := by
  rw [entryRows, itemsUnder_findings_ofAssetReport, List.flatMap_map]
  refine List.flatMap_congr fun finding _ ↦ ?_
  have hdetails : under "details" (findingOfAsset finding) = ofDetails finding.details := by
    simp [findingOfAsset, under_record]
  rw [findingRows_of_details hdetails]
  simp [findingOfAsset, under_record]

/-! ## Printed reports and their documents -/

theorem tableRows?_detectorHeading (settings : Settings) (detector : Detector) :
    tableRows? (detectorHeading settings detector) = none := by
  unfold detectorHeading
  split <;> rfl

section

variable {settings : Settings}

/-- A detector's report that is printed to its end shows its entry of a document. -/
theorem showsDetector_printDetectorReport {report : DetectorReport}
    (h : (printDetectorReport settings report).fault = none) :
    ShowsDetector (ofDetectorReport report) (printDetectorReport settings report).items := by
  obtain ⟨-, -, line, hline, hitems⟩ := of_printDetectorReport h
  have htables : (printDetectorReport settings report).items.filterMap tableRows? =
      if report.findings.isEmpty then [] else [entryRows "asset" (ofDetectorReport report)] := by
    rw [hitems, entryRows_ofDetectorReport,
      List.filterMap_cons_none (tableRows?_detectorHeading settings report.detector)]
    cases report.findings.isEmpty with
    | true => rfl
    | false => rfl
  have hresult : ((printDetectorReport settings report).items.filterMap styledText?).getLast? =
      some (resultText report.result.vulnerabilities report.result.warnings) := by
    rw [hitems, ← hline, ← List.cons_append, List.filterMap_append]
    exact List.getLast?_concat
  rw [← countUnder_vulnerabilities, ← countUnder_warnings, ← under_result_ofDetectorReport] at hresult
  refine ⟨?_, ?_, hresult, ?_⟩
  · rw [tableRows, htables]
    split
    case isTrue hempty =>
      rw [entryRows_ofDetectorReport, List.isEmpty_iff.1 hempty]
      rfl
    case isFalse => exact List.flatten_singleton
  · rw [htables, itemsUnder_findings_ofDetectorReport]
    cases report.findings <;> simp
  · rw [hresult, Option.some.injEq, resultText_eq_iff]

theorem showsAsset_printAssetReport {report : AssetReport}
    (h : (printAssetReport settings report).fault = none) :
    ShowsAsset (ofAssetReport report) (printAssetReport settings report).items := by
  obtain ⟨-, -, heading, hitems⟩ := of_printAssetReport h
  rw [ShowsAsset, hitems, entryRows_ofAssetReport]
  rfl

/-- Every report is a block of printed items, which shows its entry of the document. -/
theorem exists_blocks {outcome : ScanOutcome}
    (h : ∀ report ∈ outcome.reports.each, (printReport settings report).fault = none)
    (madeAt : Moment) :
    ∃ detectorBlocks assetBlocks,
      (printReports settings outcome.reports.each).items =
        detectorBlocks.flatten ++ assetBlocks.flatten ∧
      List.Forall₂ ShowsDetector (itemsUnder "detectors" (draft outcome madeAt)) detectorBlocks ∧
      List.Forall₂ ShowsAsset (itemsUnder "assets" (draft outcome madeAt)) assetBlocks := by
  rw [printReports_of_taken h]
  dsimp only
  obtain ⟨result, reports⟩ := outcome
  cases reports with
  | byDetector reports =>
    refine ⟨reports.map fun report ↦ (printDetectorReport settings report).items, [], ?_, ?_, ?_⟩
    · rw [Reports.each, List.flatMap_map, List.flatMap_def, List.flatten_nil, List.append_nil]
      rfl
    · rw [itemsUnder_detectors_draft, List.forall₂_map_left_iff, List.forall₂_map_right_iff,
        List.forall₂_same]
      exact fun report hreport ↦
        showsDetector_printDetectorReport (h _ (List.mem_map_of_mem hreport))
    · rw [itemsUnder_assets_byDetector]
      exact .nil
  | byAsset reports =>
    refine ⟨[], reports.map fun report ↦ (printAssetReport settings report).items, ?_, ?_, ?_⟩
    · rw [Reports.each, List.flatMap_map, List.flatMap_def, List.flatten_nil, List.nil_append]
      rfl
    · rw [itemsUnder_detectors_byAsset]
      exact .nil
    · rw [itemsUnder_assets_draft, List.forall₂_map_left_iff, List.forall₂_map_right_iff,
        List.forall₂_same]
      exact fun report hreport ↦ showsAsset_printAssetReport (h _ (List.mem_map_of_mem hreport))

/-- Blocks with the rows of their entries have, one after another, the rows of all entries. -/
theorem tableRows_flatten {label : String} {entries : List Value} {blocks : List (List Printed)}
    (h : List.Forall₂ (fun entry block ↦ tableRows block = entryRows label entry) entries blocks) :
    tableRows blocks.flatten = entries.flatMap (entryRows label) := by
  induction h with
  | nil => rfl
  | cons hblock _ ih => rw [List.flatten_cons, List.flatMap_cons, tableRows_append, hblock, ih]

/-- Reports that are printed to their end show the document of their outcome. -/
theorem shows_draft {outcome : ScanOutcome}
    (h : (printReports settings outcome.reports.each).fault = none) (madeAt : Moment) :
    Shows (draft outcome madeAt) (printReports settings outcome.reports.each)
      (summary settings outcome.result) := by
  obtain ⟨detectorBlocks, assetBlocks, hitems, hdetectors, hassets⟩ :=
    exists_blocks (forall_of_printReports h) madeAt
  refine ⟨?_, ⟨detectorBlocks, assetBlocks, hitems, hdetectors, hassets⟩, fun hclosing ↦ ?_⟩
  · rw [hitems, tableRows_append, rows, tableRows_flatten (hdetectors.imp fun _ _ ↦ (·.rows_eq)),
      tableRows_flatten (hassets.imp fun entry block hblock ↦ ?_)]
    rw [tableRows, hblock, List.flatten_singleton]
  · rw [under_total_draft, countUnder_vulnerabilities, countUnder_warnings]
    exact (of_summary hclosing).1

end

end Document

namespace Session

open Inventory Document Scan

/-- A scan that returns an outcome to one audience hands its reports on to another one, up to the first
one with which that one ends the scan. -/
theorem exists_run_of_made {σ : Type} {inventory : Inventory σ} {config : AuditConfig}
    {audience : Audience} {s : InventoryState σ} {outcome : ScanOutcome}
    (h : ((Scan.run config inventory audience).run s).1 = .ok outcome) (other : Audience) :
    ∃ done,
      (Scan.run config inventory other).run s =
        (endedBy outcome (handedOn other outcome.reports.each).2, done) ∧
      reportsOf done.activities =
        reportsOf s.activities ++ (handedOn other outcome.reports.each).1 := by
  have hfetched := learn_activities inventory config.detectors s
  rw [run_run] at h ⊢
  rcases hlearn : (learn inventory config.detectors).run s with ⟨fault | _, t⟩
  · rw [hlearn] at h
    cases h
  · rw [hlearn] at h hfetched
    dsimp only at h hfetched ⊢
    rw [conclude_of_made h other]
    refine ⟨_, rfl, ?_⟩
    change reportsOf (t.activities ++ _) = _
    rw [hfetched]
    exact reportsOf_append ..

/-- A console gets reports up to the first one of which it does not print all, and prints of them what it
prints of all reports. -/
theorem handedOn_audience (settings : Settings) (screen : Screen) (reports : List Report) :
    (handedOn (Console.audience settings screen) reports).2 =
        ((printReports settings reports).on screen).fault ∧
      (printReports settings (handedOn (Console.audience settings screen) reports).1).on screen =
        (printReports settings reports).on screen := by
  induction reports with
  | nil => exact ⟨rfl, rfl⟩
  | cons report rest ih =>
    rw [handedOn, printReports, Printing.on_andThen, Printing.andThen]
    cases hfault : Console.audience settings screen report with
    | some fault =>
      have hprinted : ((printReport settings report).on screen).fault = some fault := hfault
      dsimp only
      rw [printReports, Printing.on_andThen, Printing.andThen, hprinted]
      exact ⟨hprinted.symm, rfl⟩
    | none =>
      have hprinted : ((printReport settings report).on screen).fault = none := hfault
      dsimp only
      rw [printReports, Printing.on_andThen, Printing.andThen, hprinted, ih.2]
      exact ⟨ih.1, rfl⟩

/-- The rows of a scan by detector, where a finding has its asset on the first of its rows only. -/
def guardedRows : List (List String) :=
  [["Node: , Pod: None/", "Key", "disk"], ["", "Value", "ssd"],
    ["Node: , Pod: None/", "Key", "gpu"], ["", "Value", "None"], ["", "Effect", "NoSchedule"],
    ["", "Privileged", "true"]]

end Session

end ClusterAudit
