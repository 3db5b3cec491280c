import ClusterAudit.Proofs.Scan.Documents
import ClusterAudit.Proofs.Scan.Printing
import ClusterAudit.Proofs.Source.Json

/-!
# Reports as JSON

A report that was shown has texts or null as evidence and counts that are written, and the names in it are
those of objects.  So the document of a scan is JSON when its source holds JSON.
-/

namespace ClusterAudit

open Manifest Traversal

/-! ## Reports that were taken -/

namespace Scan

open Inventory

section

variable {config : AuditConfig} {audience : Audience} {stored : AssetKind → List Asset}
  {outcome : ScanOutcome}

/-- The assets of which a report tells. -/
def assetsOf : Report → List Asset
  | .ofDetector report => report.findings.map (·.asset)
  | .ofAsset report => report.asset :: report.findings.map (·.asset)

/-- An outcome that is returned tells of assets that were known. -/
theorem exists_kind_of_conclude (h : (conclude config audience stored).1 = .ok outcome) :
    ∀ report ∈ outcome.reports.each, ∀ asset ∈ assetsOf report, ∃ kind, asset ∈ stored kind := by
  rw [outcome_eq_of_conclude h]
  split
  · intro report hreport other hother
    obtain ⟨made, hmade, rfl⟩ := List.mem_map.1 hreport
    obtain ⟨asset, hscope, habout⟩ := List.mem_filterMap.1 hmade
    obtain ⟨kind, -, hkind⟩ := List.mem_flatMap.1 hscope
    obtain ⟨-, rfl⟩ := of_reportAbout? habout
    refine ⟨kind, ?_⟩
    rcases List.mem_cons.1 hother with rfl | hfound
    · exact hkind
    · obtain ⟨finding, hfinding, rfl⟩ := List.mem_map.1 hfound
      obtain ⟨detector, -, hfound⟩ := List.mem_filterMap.1 hfinding
      rw [(of_found? hfound).2]
      exact hkind
  · intro report hreport asset hasset
    obtain ⟨made, hmade, rfl⟩ := List.mem_map.1 hreport
    obtain ⟨detector, -, rfl⟩ := List.mem_map.1 hmade
    obtain ⟨finding, hfinding, rfl⟩ := List.mem_map.1 hasset
    obtain ⟨asset, hstored, hfound⟩ := List.mem_filterMap.1 hfinding
    rw [(of_found? hfound).2]
    obtain ⟨kind, -, hkind⟩ := List.mem_flatMap.1 hstored
    exact ⟨kind, hkind⟩

end

end Scan

/-! ## Documents -/

namespace Console

def findingsOf : Report → List Finding
  | .ofDetector report => report.findings
  | .ofAsset report => report.findings

/-- The counts of a report, if it has some. -/
def tallyOf? : Report → Option Tally
  | .ofDetector report => some report.result
  | .ofAsset _ => none

end Console

/-- A report that names assets by JSON values, with evidence that can be shown and counts that are
written. -/
structure Report.IsJson (report : Report) : Prop where
  names : ∀ asset ∈ Scan.assetsOf report, asset.name.isJson = true
  evidence : ∀ finding ∈ Console.findingsOf report, ∀ detail ∈ finding.details, detail.value.IsName
  counts : ∀ tally ∈ Console.tallyOf? report, Console.IsCounted tally

/-- A report that is printed to its end is JSON when the names in it are. -/
theorem Report.isJson_of_printReport {settings : Console.Settings} {report : Report}
    (h : (Console.printReport settings report).fault = none)
    (hnames : ∀ asset ∈ Scan.assetsOf report, asset.name.isJson = true) : report.IsJson := by
  cases report with
  | ofDetector report =>
    obtain ⟨hfindings, hcounted, -⟩ := Console.of_printDetectorReport h
    refine ⟨hnames, fun finding hfinding ↦ (hfindings finding hfinding).2, ?_⟩
    rintro tally ⟨⟩
    exact hcounted
  | ofAsset report =>
    obtain ⟨-, hevidence, -⟩ := Console.of_printAssetReport h
    exact ⟨hnames, hevidence, nofun⟩

namespace Document

theorem keys_record (fields : List (String × Value)) :
    (fields.map fun (name, value) ↦ (Scalar.text name, value)).map (·.1) =
      (fields.map (·.1)).map .text := by
  rw [List.map_map, List.map_map]
  rfl

theorem isJson_record {fields : List (String × Value)} (hnodup : (fields.map (·.1)).Nodup) :
    (record fields).isJson = true ↔ ∀ field ∈ fields, field.2.isJson = true := by
  have hdistinct : ((fields.map (·.1)).map Scalar.text).Nodup :=
    hnodup.map fun _ _ ↦ Scalar.text.inj
  rw [record, Value.isJson_map, keys_record, List.forall_mem_map, List.forall_mem_map,
    List.forall_mem_map]
  exact ⟨fun h ↦ h.2.2, fun h ↦ ⟨fun _ _ ↦ rfl, hdistinct, h⟩⟩

theorem isJson_texts (ts : List String) : (texts ts).isJson = true :=
  Value.isJson_list.2 (List.forall_mem_map.2 fun _ _ ↦ Value.isJson_text _)

theorem isJson_ofTally {tally : Tally} (h : Console.IsCounted tally) : (ofTally tally).isJson = true := by
  rw [ofTally, isJson_record (by simp)]
  simpa [Console.IsCounted] using h

theorem isJson_ofDetails {details : List Detail}
    (h : ∀ detail ∈ details, detail.value.IsName) : (ofDetails details).isJson = true := by
  refine Value.isJson_list.2 (List.forall_mem_map.2 fun detail hdetail ↦ ?_)
  rw [isJson_record (by simp)]
  simpa using (h detail hdetail).isJson

theorem isJson_ofDetectorReport {report : DetectorReport}
    (h : (Report.ofDetector report).IsJson) :
    (ofDetectorReport report).isJson = true := by
  have hfindings : (Value.list (report.findings.map findingOfDetector)).isJson = true := by
    refine Value.isJson_list.2 (List.forall_mem_map.2 fun finding hfinding ↦ ?_)
    have hname := h.names _ (List.mem_map_of_mem hfinding)
    have hdetails := isJson_ofDetails (h.evidence finding hfinding)
    rw [findingOfDetector, isJson_record (by simp)]
    simp [hname, hdetails]
  have hresult := isJson_ofTally (h.counts report.result rfl)
  rw [ofDetectorReport, isJson_record (by simp [detectorFields])]
  simp [detectorFields, isJson_texts, hfindings, hresult]

theorem isJson_ofAssetReport {report : AssetReport} (h : (Report.ofAsset report).IsJson) :
    (ofAssetReport report).isJson = true := by
  obtain ⟨hname, hothers⟩ := List.forall_mem_cons.1 h.names
  have hfindings : (Value.list (report.findings.map findingOfAsset)).isJson = true := by
    refine Value.isJson_list.2 (List.forall_mem_map.2 fun finding hfinding ↦ ?_)
    have hname := hothers _ (List.mem_map_of_mem hfinding)
    have hdetails := isJson_ofDetails (h.evidence finding hfinding)
    rw [findingOfAsset, isJson_record (by simp)]
    simp [hname, hdetails]
  rw [ofAssetReport, isJson_record (by simp)]
  simp [isJson_texts, hname, hfindings]

/-- What a document says of an outcome is JSON when the reports are and the counts are written; the
moment is written as a text. -/
theorem isJson_draft {outcome : ScanOutcome} (h : ∀ report ∈ outcome.reports.each, report.IsJson)
    (hcounted : Console.IsCounted outcome.result) (madeAt : Moment) :
    (draft outcome madeAt).isJson = true := by
  have hreports : (ofReports outcome.reports).2.isJson = true := by
    obtain ⟨result, reports⟩ := outcome
    cases reports with
    | byDetector reports =>
      refine Value.isJson_list.2 (List.forall_mem_map.2 fun report hreport ↦ ?_)
      exact isJson_ofDetectorReport (h _ (List.mem_map_of_mem hreport))
    | byAsset reports =>
      refine Value.isJson_list.2 (List.forall_mem_map.2 fun report hreport ↦ ?_)
      exact isJson_ofAssetReport (h _ (List.mem_map_of_mem hreport))
  have hdistinct : ["generated_at", "total", (ofReports outcome.reports).1].Nodup := by
    cases outcome.reports with
    | byDetector reports => simp [ofReports]
    | byAsset reports => simp [ofReports]
  rw [draft, isJson_record (by exact hdistinct)]
  simp [isJson_ofTally hcounted, hreports]

/-- There is a document of an outcome whose reports are all printed to their end. -/
theorem ofOutcome_of_printed {outcome : ScanOutcome} (hattributed : Attributed outcome.reports)
    {settings : Console.Settings}
    (h : ∀ report ∈ outcome.reports.each, (Console.printReport settings report).fault = none)
    (madeAt : Moment) : ofOutcome outcome madeAt = .ok (draft outcome madeAt) := by
  have hwritten : ∀ asset ∈ namedAssets outcome.reports, asset.writtenName.isOk = true := by
    obtain ⟨result, reports⟩ := outcome
    intro asset hasset
    cases reports with
    | byDetector reports =>
      obtain ⟨report, hreport, hasset⟩ := List.mem_flatMap.1 hasset
      obtain ⟨finding, hfinding, rfl⟩ := List.mem_map.1 hasset
      have hfault := h _ (List.mem_map_of_mem hreport)
      rw [((Console.of_printDetectorReport hfault).1 finding hfinding).1]
      rfl
    | byAsset reports =>
      obtain ⟨report, hreport, hasset⟩ := List.mem_flatMap.1 hasset
      have hsame : asset = report.asset := by
        rcases List.mem_cons.1 hasset with rfl | hfound
        · rfl
        · obtain ⟨finding, hfinding, rfl⟩ := List.mem_map.1 hfound
          exact hattributed report hreport finding hfinding
      have hfault := h _ (List.mem_map_of_mem hreport)
      rw [hsame, (Console.of_printAssetReport hfault).1]
      rfl
  obtain ⟨document, hdocument⟩ := exists_of_isOk (ofOutcome_isOk_iff.2 hwritten)
  rw [hdocument, Value.eq_of_written hdocument]

end Document

/-! ## Scans -/

namespace Inventory

variable {σ : Type} {inventory : Inventory σ} {list : AssetKind → SourceM σ (List Value)}
  {defaultNames : AssetKind → List String} {sort : σ → Prop}

/-- The source is in a state of a sort, and all known assets have JSON as names. -/
structure NamesJson (sort : σ → Prop) (s : InventoryState σ) : Prop where
  source : sort s.source
  names : ∀ entry ∈ s.known, ∀ asset ∈ entry.2, asset.name.isJson = true

theorem NamesJson.start {s : σ} (h : sort s) : NamesJson sort { source := s } :=
  ⟨h, List.forall_mem_nil _⟩

/-- Pairs and dependencies have texts as names. -/
theorem Derivation.names {known : Knowledge} {kind : AssetKind} {assets : List Asset}
    (h : inventory.Derivation known kind assets) : ∀ asset ∈ assets, asset.name.isJson = true := by
  cases h with
  | noPairs => exact List.forall_mem_nil _
  | pairs =>
    intro asset hasset
    obtain ⟨node, -, hpods⟩ := List.mem_flatMap.1 hasset
    obtain ⟨pod, -, rfl⟩ := List.mem_map.1 hpods
    exact Value.isJson_text _
  | dependencies =>
    intro asset hasset
    obtain ⟨dependency, -, rfl⟩ := List.mem_map.1 hasset
    exact Value.isJson_text _

theorem NamesJson.step (hsource : inventory.source = .ofManifests list defaultNames)
    (hlist : ListsJson list sort) {s t : InventoryState σ} {kind : AssetKind}
    (h : NamesJson sort s) (hstep : inventory.Step s kind t) : NamesJson sort t := by
  cases hstep with
  | fetched hprimary hunknown hload =>
    obtain ⟨hafter, hnames⟩ := isJson_of_fetch hlist defaultNames hprimary h.source
    rw [← hsource] at hafter hnames
    obtain ⟨hresult, rfl⟩ := Prod.mk.inj hload
    obtain ⟨answer, hanswer, hwanted⟩ := bind_eq_ok hresult
    refine ⟨hafter, List.forall_mem_append.2 ⟨h.names, List.forall_mem_singleton.2 ?_⟩⟩
    intro asset hasset
    rw [inventory.eq_kept_of_wanted hwanted] at hasset
    exact hnames answer hanswer asset (inventory.mem_of_mem_kept hasset)
  | failed hprimary hunknown hload =>
    obtain ⟨hafter, -⟩ := isJson_of_fetch hlist defaultNames hprimary h.source
    rw [← hsource] at hafter
    obtain ⟨-, rfl⟩ := Prod.mk.inj hload
    exact ⟨hafter, h.names⟩
  | derived hunknown hassets =>
    exact ⟨h.source, List.forall_mem_append.2 ⟨h.names, List.forall_mem_singleton.2 hassets.names⟩⟩

theorem isJson_of_recalled {known : Knowledge}
    (h : ∀ entry ∈ known, ∀ asset ∈ entry.2, asset.name.isJson = true) {kind : AssetKind}
    {asset : Asset} (hasset : asset ∈ recalled known kind) : asset.name.isJson = true := by
  unfold recalled known? at hasset
  cases hfind : known.find? fun entry ↦ entry.1 = kind with
  | none =>
    rw [hfind] at hasset
    cases hasset
  | some entry =>
    rw [hfind] at hasset
    exact h entry (List.mem_of_find?_eq_some hfind) asset hasset

end Inventory

namespace Scan

open Inventory

/-- The reports of a scan that were all shown are JSON when its source holds JSON. -/
theorem isJson_of_run {σ : Type} {inventory : Inventory σ} {list : AssetKind → SourceM σ (List Value)}
    {defaultNames : AssetKind → List String} {sort : σ → Prop}
    (hsource : inventory.source = .ofManifests list defaultNames) (hlist : ListsJson list sort)
    {s : InventoryState σ} (hs : NamesJson sort s) {config : AuditConfig}
    {settings : Console.Settings} {screen : Console.Screen} {outcome : ScanOutcome}
    (h : ((run config inventory (Console.audience settings screen)).run s).1 = .ok outcome) :
    ∀ report ∈ outcome.reports.each,
      ((Console.printReport settings report).on screen).fault = none ∧ report.IsJson := by
  have hlearnt := (learn_steps config.detectors s).invariant
    (fun _ _ _ hstep hs ↦ NamesJson.step hsource hlist hs hstep) hs
  rw [run_run] at h
  rcases hlearn : (learn inventory config.detectors).run s with ⟨fault | _, t⟩
  · rw [hlearn] at h
    cases h
  · rw [hlearn] at h hlearnt
    intro report hreport
    have htaken := (taken_of_conclude h).2 report hreport
    refine ⟨htaken, Report.isJson_of_printReport (Console.Printing.on_fault_eq_none_iff.1 htaken).1
      fun asset hasset ↦ ?_⟩
    obtain ⟨kind, hkind⟩ := exists_kind_of_conclude h report hreport asset hasset
    exact isJson_of_recalled hlearnt.names hkind

end Scan

end ClusterAudit
