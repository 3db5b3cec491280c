import ClusterAudit.Proofs.Manifest.Written
import ClusterAudit.Proofs.Text.Numerals
import ClusterAudit.Scan.Console
import Mathlib.Data.List.Forall2

/-!
# Printed reports

A report is printed to its end when all its parts can be made.  Then the rows of its table, its result
line and the lines at the end of a scan are the same under all settings.  When the cells are texts or
null, only an integer with too many digits can end the printing, unless the console refuses an item.
-/

namespace ClusterAudit.Console

open Manifest Traversal

/-! ## Rows -/

/-- The text in a cell, none for null. -/
def shownText : Value → String
  | .text s => s
  | _ => ""

/-- The row of a piece of evidence at a position of its finding; the first row has the label. -/
def labelledRow (label : Value) (position : Nat) (key value : Value) : List String :=
  [if position = 0 then shownText label else "", shownText key, shownText value]

def rowsOf (label : Value) (details : List Detail) : List (List String) :=
  details.mapIdx fun position detail ↦ labelledRow label position (.text detail.key) detail.value

theorem cell_eq_ok_iff {v : Value} {text : String} :
    cell v = .ok text ↔ v.IsName ∧ text = shownText v := by
  constructor
  · intro h
    unfold cell at h
    split at h
    · cases h
      exact ⟨.text _, rfl⟩
    · cases h
      exact ⟨.null, rfl⟩
    · cases h
  · rintro ⟨hname, rfl⟩
    cases hname <;> rfl

theorem row_eq_ok_iff {label : Value} {detail : Detail} {cells : List String} :
    row label detail = .ok cells ↔ label.IsName ∧ detail.value.IsName ∧
      cells = [shownText label, detail.key, shownText detail.value] := by
  constructor
  · intro h
    obtain ⟨first, hfirst, h⟩ := bind_eq_ok h
    obtain ⟨last, hlast, h⟩ := bind_eq_ok h
    cases h
    obtain ⟨hlabel, rfl⟩ := cell_eq_ok_iff.1 hfirst
    obtain ⟨hvalue, rfl⟩ := cell_eq_ok_iff.1 hlast
    exact ⟨hlabel, hvalue, rfl⟩
  · rintro ⟨hlabel, hvalue, rfl⟩
    rw [row, cell_eq_ok_iff.2 ⟨hlabel, rfl⟩, cell_eq_ok_iff.2 ⟨hvalue, rfl⟩]
    rfl

/-- The first row of a finding comes before the rows without label. -/
theorem rowsOf_cons (label : Value) (first : Detail) (rest : List Detail) :
    rowsOf label (first :: rest) = [shownText label, first.key, shownText first.value] ::
      rest.map fun detail ↦ ["", detail.key, shownText detail.value] := by
  rw [rowsOf, List.mapIdx_cons]
  exact congrArg _ (List.ext_getElem (by simp) fun position _ _ ↦ by simp [labelledRow, shownText])

theorem findingRows_of_isName {label : Value} (hlabel : label.IsName) {details : List Detail}
    (h : ∀ detail ∈ details, detail.value.IsName) :
    findingRows label details = .ok (rowsOf label details) := by
  cases details with
  | nil => rfl
  | cons first rest =>
    obtain ⟨hfirst, hrest⟩ := List.forall_mem_cons.1 h
    have hothers : rest.mapM (row (.text "")) =
        .ok (rest.map fun detail ↦ ["", detail.key, shownText detail.value]) :=
      mapM_eq_ok_map fun detail hdetail ↦
        row_eq_ok_iff.2 ⟨.text "", hrest detail hdetail, rfl⟩
    rw [findingRows, row_eq_ok_iff.2 ⟨hlabel, hfirst, rfl⟩, hothers, rowsOf_cons]
    rfl

theorem of_findingRows {label : Value} {details : List Detail} {rows : List (List String)}
    (h : findingRows label details = .ok rows) :
    (∀ detail ∈ details, detail.value.IsName) ∧ rows = rowsOf label details := by
  cases details with
  | nil =>
    cases h
    exact ⟨List.forall_mem_nil _, rfl⟩
  | cons first rest =>
    obtain ⟨row, hrow, h⟩ := bind_eq_ok h
    obtain ⟨others, hothers, h⟩ := bind_eq_ok h
    cases h
    obtain ⟨-, hfirst, rfl⟩ := row_eq_ok_iff.1 hrow
    have hrest : ∀ detail ∈ rest, detail.value.IsName := by
      intro detail hdetail
      obtain ⟨cells, hcells⟩ := exists_ok_of_mapM hothers hdetail
      exact (row_eq_ok_iff.1 hcells).2.1
    refine ⟨List.forall_mem_cons.2 ⟨hfirst, hrest⟩, ?_⟩
    rw [rowsOf_cons, eq_map_of_mapM hothers fun detail _ cells hcells ↦ (row_eq_ok_iff.1 hcells).2.2]
    rfl

/-! ## Tables -/

section

variable {header : String} {label : Finding → Except Fault Value} {name : Finding → Value}
  {findings : List Finding}

/-- A table that is made has texts or null as cells, and its rows are those of the findings. -/
theorem of_table (hname : ∀ finding v, label finding = .ok v → v = name finding) {printed : Printed}
    (h : table header label findings = .ok printed) :
    (∀ finding ∈ findings, label finding = .ok (name finding) ∧
      ∀ detail ∈ finding.details, detail.value.IsName) ∧
    printed = .table (columns header)
      (findings.flatMap fun finding ↦ rowsOf (name finding) finding.details) := by
  obtain ⟨rows, hrows, h⟩ := bind_eq_ok h
  cases h
  have hfinding (finding : Finding) (own : List (List String))
      (h : (do findingRows (← label finding) finding.details) = .ok own) :
      label finding = .ok (name finding) ∧ (∀ detail ∈ finding.details, detail.value.IsName) ∧
        own = rowsOf (name finding) finding.details := by
    obtain ⟨v, hv, h⟩ := bind_eq_ok h
    obtain rfl := hname finding v hv
    exact ⟨hv, of_findingRows h⟩
  constructor
  · intro finding hmem
    obtain ⟨own, hown⟩ := exists_ok_of_mapM hrows hmem
    exact ⟨(hfinding finding own hown).1, (hfinding finding own hown).2.1⟩
  · rw [eq_map_of_mapM hrows fun finding _ own hown ↦ (hfinding finding own hown).2.2, List.flatMap_def]

/-- A finding whose label and evidence are texts or null. -/
structure IsShowable (name : Finding → Value) (finding : Finding) : Prop where
  label_isName : (name finding).IsName
  value_isName : ∀ detail ∈ finding.details, detail.value.IsName

instance (finding : Finding) : Decidable (IsShowable name finding) :=
  decidable_of_iff ((name finding).IsName ∧ ∀ detail ∈ finding.details, detail.value.IsName)
    ⟨fun h ↦ ⟨h.1, h.2⟩, fun h ↦ ⟨h.label_isName, h.value_isName⟩⟩

/-- The table of showable findings has no faults but those of their labels. -/
theorem exists_of_table_error (hname : ∀ finding v, label finding = .ok v → v = name finding)
    (hfindings : ∀ finding ∈ findings, IsShowable name finding) {fault : Fault}
    (h : table header label findings = .error fault) :
    ∃ finding ∈ findings, label finding = .error fault := by
  unfold table at h
  cases hrows : findings.mapM fun finding ↦ do findingRows (← label finding) finding.details with
  | ok rows =>
    rw [hrows] at h
    cases h
  | error other =>
    rw [hrows] at h
    cases h
    obtain ⟨finding, hmem, hfault⟩ := exists_of_mapM_error hrows
    refine ⟨finding, hmem, ?_⟩
    cases hlabel : label finding with
    | error first =>
      rw [hlabel] at hfault
      cases hfault
      rfl
    | ok v =>
      obtain rfl := hname finding v hlabel
      obtain ⟨hisName, hvalues⟩ := hfindings finding hmem
      rw [hlabel] at hfault
      cases (findingRows_of_isName hisName hvalues).symm.trans hfault

end

/-! ## Texts without control codes -/

theorem withoutControlCodes_append (first last : String) :
    withoutControlCodes (first ++ last) = withoutControlCodes first ++ withoutControlCodes last := by
  simp [withoutControlCodes]

theorem withoutControlCodes_repr (n : Nat) : withoutControlCodes n.repr = n.repr := by
  have hdigits : ∀ c ∈ n.repr.toList, !isControlCode c := by
    intro c hc
    have hdigit : c.isDigit := Text.isDigit_of_mem_toDigits (Nat.toList_repr ▸ hc)
    by_contra hcontrol
    have hcode : isControlCode c := by simpa using hcontrol
    simp only [isControlCode, Bool.or_eq_true, decide_eq_true_eq] at hcode
    rcases hcode with (((rfl | rfl) | rfl) | rfl) | rfl <;> exact absurd hdigit (by decide)
  rw [withoutControlCodes, List.filter_eq_self.2 hdigits, String.ofList_toList]

/-- A count with a noun has no control codes when the noun has none. -/
theorem withoutControlCodes_counted (n : Nat) {noun : String} (h : withoutControlCodes noun = noun) :
    withoutControlCodes (toString n ++ noun) = toString n ++ noun := by
  rw [withoutControlCodes_append, h]
  exact congrArg (· ++ noun) (withoutControlCodes_repr n)

/-! ## Lines -/

/-- The text that sums up counts. -/
def resultText (vulnerabilities warnings : Nat) : String :=
  if vulnerabilities = 0 ∧ warnings = 0 then "No misconfigurations found."
  else "Scanning result: " ++ (toString vulnerabilities ++ " potential vulnerabilities") ++
    if warnings = 0 then "" else ", " ++ (toString warnings ++ " warnings")

theorem resultText_eq_iff {vulnerabilities warnings : Nat} :
    resultText vulnerabilities warnings = "No misconfigurations found." ↔
      vulnerabilities = 0 ∧ warnings = 0 := by
  unfold resultText
  split
  case isTrue h => exact iff_of_true rfl h
  case isFalse h =>
    refine iff_of_false (fun heq ↦ ?_) h
    have hhead := congrArg (fun text ↦ text.toList.head?) heq
    simp [String.toList_append] at hhead

theorem StyledText.text_append (whole : StyledText) (piece style : String) :
    (whole.append piece style).text = whole.text ++ withoutControlCodes piece :=
  rfl

/-- Counts that have no more digits than are written. -/
def IsCounted (result : Tally) : Prop :=
  Text.isWritable result.vulnerabilities = true ∧ Text.isWritable result.warnings = true

theorem isWritable_zero : Text.isWritable 0 = true := by decide +kernel

/-- A count is displayed as its digits, if these are not too many. -/
theorem of_display_count {n : Nat} {text : String} (h : Value.display (.int n) = .ok text) :
    text = toString n ∧ Text.isWritable n = true := by
  obtain ⟨hall, rfl⟩ := Value.written_eq_ok_iff.1 h
  exact ⟨rfl, by simpa [Value.isWritable, Value.everyScalar, Scalar.isWritable] using hall⟩

theorem of_resultLine {settings : Settings} {result : Tally} {line : StyledText}
    (h : resultLine settings result = .ok line) :
    line.text = resultText result.vulnerabilities result.warnings ∧ IsCounted result := by
  have hopening : (StyledText.styled "Scanning result: " "").text = "Scanning result: " := rfl
  have hcomma : withoutControlCodes ", " = ", " := rfl
  unfold resultLine at h
  unfold resultText IsCounted
  split at h
  case isTrue htotal =>
    cases h
    obtain ⟨hvulnerabilities, hwarnings⟩ := Nat.add_eq_zero_iff.1 htotal
    rw [if_pos ⟨hvulnerabilities, hwarnings⟩, hvulnerabilities, hwarnings]
    exact ⟨rfl, isWritable_zero, isWritable_zero⟩
  case isFalse htotal =>
    rw [if_neg (mt Nat.add_eq_zero_iff.2 htotal)]
    obtain ⟨vulnerabilities, hvulnerabilities, h⟩ := bind_eq_ok h
    obtain ⟨rfl, hcounted⟩ := of_display_count hvulnerabilities
    split at h
    case isTrue hzero =>
      cases h
      rw [if_pos hzero, hzero, StyledText.text_append, hopening, withoutControlCodes_counted _ rfl,
        String.append_empty]
      exact ⟨rfl, hcounted, isWritable_zero⟩
    case isFalse hzero =>
      obtain ⟨warnings, hwarnings, h⟩ := bind_eq_ok h
      obtain ⟨rfl, hwarned⟩ := of_display_count hwarnings
      cases h
      rw [if_neg hzero, StyledText.text_append, StyledText.text_append, StyledText.text_append,
        hopening, hcomma, withoutControlCodes_counted _ rfl, withoutControlCodes_counted _ rfl]
      exact ⟨String.append_assoc, hcounted, hwarned⟩

def styledText? : Printed → Option String
  | .styled text => some text.text
  | _ => none

/-- A line with a count has the words and the count as text. -/
theorem of_countLine {settings : Settings} {words : String} (hwords : withoutControlCodes words = words)
    {n : Nat} {style : String} {printed : Printed}
    (h : countLine settings words n style = .ok printed) :
    styledText? printed = some (words ++ toString n) ∧ Text.isWritable n = true := by
  obtain ⟨shown, hshown, h⟩ := bind_eq_ok h
  obtain ⟨rfl, hwritable⟩ := of_display_count hshown
  cases h
  refine ⟨?_, hwritable⟩
  change some (withoutControlCodes (words ++ n.repr)) = _
  rw [withoutControlCodes_append, hwords, withoutControlCodes_repr]
  rfl

/-! ## Items in order -/

namespace Printing

/-- Without a fault all items were made. -/
theorem exists_of_mem_inOrder {makes : List (Except Fault Printed)} (h : (inOrder makes).fault = none) :
    ∀ make ∈ makes, ∃ item, make = .ok item := by
  induction makes with
  | nil => exact List.forall_mem_nil _
  | cons make rest ih =>
    cases make with
    | error fault => cases h
    | ok item => exact List.forall_mem_cons.2 ⟨⟨item, rfl⟩, ih h⟩

/-- The fault that ends the printing is that of one of the items. -/
theorem mem_of_inOrder {makes : List (Except Fault Printed)} {fault : Fault}
    (h : (inOrder makes).fault = some fault) : .error fault ∈ makes := by
  induction makes with
  | nil => cases h
  | cons make rest ih =>
    cases make with
    | error first =>
      cases h
      exact List.mem_cons_self
    | ok item => exact List.mem_cons_of_mem _ (ih h)

section

variable {screen : Screen} {printing : Printing}

/-- A printing comes to its end when all its items are made and the console refuses none of them. -/
theorem on_fault_eq_none_iff : (printing.on screen).fault = none ↔
    printing.fault = none ∧ ∀ item ∈ printing.items, screen item = none := by
  obtain ⟨items, fault⟩ := printing
  rw [on]
  induction items with
  | nil => simp [upTo]
  | cons item rest ih =>
    rw [upTo]
    dsimp only at ih ⊢
    split
    · rename_i hrefused
      simp [hrefused]
    · rename_i htaken
      rw [ih]
      simp [htaken]

/-- A console that refuses no item prints all of them. -/
theorem on_eq_self (h : ∀ item ∈ printing.items, screen item = none) : printing.on screen = printing := by
  obtain ⟨items, fault⟩ := printing
  rw [on]
  induction items with
  | nil => rfl
  | cons item rest ih =>
    obtain ⟨hitem, hrest⟩ := List.forall_mem_cons.1 h
    rw [upTo, hitem]
    dsimp only at ih ⊢
    rw [ih hrest]

theorem on_eq_of_fault (h : (printing.on screen).fault = none) : printing.on screen = printing :=
  on_eq_self (on_fault_eq_none_iff.1 h).2

theorem of_andThen {second : Printing} (h : (printing.andThen second).fault = none) :
    printing.fault = none ∧ second.fault = none := by
  unfold andThen at h
  split at h
  · rename_i hfault
    exact absurd (hfault.symm.trans h) (Option.some_ne_none _)
  · rename_i hfault
    exact ⟨hfault, h⟩

/-- What the console refuses of one printing ends the following ones. -/
theorem on_andThen (second : Printing) :
    (printing.andThen second).on screen = (printing.on screen).andThen (second.on screen) := by
  obtain ⟨items, fault⟩ := printing
  cases fault with
  | some fault =>
    cases hfault : (on screen ⟨items, some fault⟩).fault with
    | none => cases (on_fault_eq_none_iff.1 hfault).1
    | some other =>
      rw [andThen, andThen, hfault]
  | none =>
    change upTo screen second.fault (items ++ second.items) =
      (upTo screen none items).andThen (upTo screen second.fault second.items)
    induction items with
    | nil => rfl
    | cons item rest ih =>
      rw [List.cons_append, upTo, upTo, ih]
      cases screen item with
      | some refusal => rfl
      | none =>
        dsimp only [andThen]
        cases hrest : (upTo screen none rest).fault with
        | some fault => simp [hrest]
        | none => simp

end

end Printing

/-! ## Reports without faults -/

def tableRows? : Printed → Option (List (List String))
  | .table _ rows => some rows
  | _ => none

/-- The rows of all tables, one table after another. -/
def tableRows (items : List Printed) : List (List String) :=
  (items.filterMap tableRows?).flatten

theorem tableRows_append (first last : List Printed) :
    tableRows (first ++ last) = tableRows first ++ tableRows last := by
  simp [tableRows]

section

variable {settings : Settings}

/-- A detector's report that is printed to its end has a table for its findings, if there are any, and
ends with its result line. -/
theorem of_printDetectorReport {report : DetectorReport}
    (h : (printDetectorReport settings report).fault = none) :
    (∀ finding ∈ report.findings, finding.asset.writtenName = .ok finding.asset.name ∧
      ∀ detail ∈ finding.details, detail.value.IsName) ∧
    IsCounted report.result ∧
    ∃ line, line.text = resultText report.result.vulnerabilities report.result.warnings ∧
      (printDetectorReport settings report).items = detectorHeading settings report.detector ::
        ((if report.findings.isEmpty then [] else
          [.table (columns "Asset") (report.findings.flatMap fun finding ↦
            rowsOf finding.asset.name finding.details)]) ++ [.styled line, .line ""]) := by
  unfold printDetectorReport at h ⊢
  have hmade := Printing.exists_of_mem_inOrder h
  obtain ⟨shown, hshown⟩ := hmade (.styled <$> resultLine settings report.result) (by simp)
  obtain ⟨line, hline, rfl⟩ := map_eq_ok hshown
  obtain ⟨htext, hcounted⟩ := of_resultLine hline
  rw [hshown]
  by_cases hempty : report.findings.isEmpty
  · rw [if_pos hempty, if_pos hempty, List.isEmpty_iff.1 hempty]
    exact ⟨List.forall_mem_nil _, hcounted, line, htext, rfl⟩
  · rw [if_neg hempty] at hmade ⊢
    rw [if_neg hempty]
    obtain ⟨printed, hprinted⟩ := hmade (table "Asset" (·.asset.writtenName) report.findings) (by simp)
    obtain ⟨hfindings, htable⟩ := of_table (fun _ _ ↦ Value.eq_of_written) hprinted
    rw [hprinted, htable]
    exact ⟨hfindings, hcounted, line, htext, rfl⟩

/-- The report of an asset that is printed to its end has one table. -/
theorem of_printAssetReport {report : AssetReport} (h : (printAssetReport settings report).fault = none) :
    report.asset.writtenName = .ok report.asset.name ∧
    (∀ finding ∈ report.findings, ∀ detail ∈ finding.details, detail.value.IsName) ∧
    ∃ heading, (printAssetReport settings report).items =
      [.styled heading, .line ("Kind: " ++ report.asset.kind.name),
        .line ("Detectors: " ++ ", ".intercalate report.detectorNames),
        .table (columns "Detector") (report.findings.flatMap fun finding ↦
          rowsOf (.text finding.detector.name) finding.details), .line ""] := by
  unfold printAssetReport at h ⊢
  have hmade := Printing.exists_of_mem_inOrder h
  obtain ⟨heading, hheading⟩ := hmade (assetHeading settings report.asset) (by simp)
  obtain ⟨printed, hprinted⟩ :=
    hmade (table "Detector" (fun finding ↦ .ok (.text finding.detector.name)) report.findings) (by simp)
  have hlabel (finding : Finding) (v : Value)
      (hv : (.ok (.text finding.detector.name) : Except Fault Value) = .ok v) :
      v = .text finding.detector.name :=
    (Except.ok.inj hv).symm
  obtain ⟨hfindings, htable⟩ := of_table hlabel hprinted
  rw [hheading, hprinted, htable]
  obtain ⟨v, hv, hheading⟩ := bind_eq_ok hheading
  obtain ⟨name, -, hheading⟩ := bind_eq_ok hheading
  cases hheading
  exact ⟨Value.eq_of_written hv ▸ hv, fun finding hfinding ↦ (hfindings finding hfinding).2, _, rfl⟩

theorem printReports_of_taken {reports : List Report}
    (h : ∀ report ∈ reports, (printReport settings report).fault = none) :
    printReports settings reports =
      ⟨reports.flatMap fun report ↦ (printReport settings report).items, none⟩ := by
  induction reports with
  | nil => rfl
  | cons report rest ih =>
    obtain ⟨hreport, hrest⟩ := List.forall_mem_cons.1 h
    rw [printReports, Printing.andThen, hreport, ih hrest]
    rfl

theorem forall_of_printReports {reports : List Report}
    (h : (printReports settings reports).fault = none) :
    ∀ report ∈ reports, (printReport settings report).fault = none := by
  induction reports with
  | nil => exact List.forall_mem_nil _
  | cons report rest ih =>
    obtain ⟨hfault, hothers⟩ := Printing.of_andThen h
    exact List.forall_mem_cons.2 ⟨hfault, ih hothers⟩

/-- Reports are all printed when the console refuses nothing of any of them. -/
theorem fault_printReports_on {screen : Screen} {reports : List Report}
    (h : ∀ report ∈ reports, ((printReport settings report).on screen).fault = none) :
    ((printReports settings reports).on screen).fault = none := by
  induction reports with
  | nil => rfl
  | cons report rest ih =>
    obtain ⟨hreport, hrest⟩ := List.forall_mem_cons.1 h
    rw [printReports, Printing.on_andThen, Printing.andThen, hreport]
    exact ih hrest

/-! ## The summary -/

/-- The texts at the end of a scan. -/
def summaryTexts (vulnerabilities warnings : Nat) : List String :=
  ["Total count:", "Potential vulnerabilities " ++ toString vulnerabilities] ++
    (if warnings = 0 then [] else ["Warnings " ++ toString warnings]) ++ ["Scanning done!"]

/-- The lines at the end of a scan say the counts, which have no more digits than are written. -/
theorem of_summary {result : Tally} (h : (summary settings result).fault = none) :
    (summary settings result).items.map styledText? =
      (summaryTexts result.vulnerabilities result.warnings).map some ∧ IsCounted result := by
  unfold summary at h ⊢
  have hmade := Printing.exists_of_mem_inOrder h
  obtain ⟨first, hfirst⟩ :=
    hmade (countLine settings "Potential vulnerabilities " result.vulnerabilities "red") (by simp)
  obtain ⟨hvulnerabilities, hwritable⟩ := of_countLine rfl hfirst
  rw [hfirst]
  unfold summaryTexts
  by_cases hzero : result.warnings = 0
  · rw [if_neg (by omega), if_pos hzero]
    refine ⟨?_, hwritable, by rw [hzero]; exact isWritable_zero⟩
    change [some "Total count:", styledText? first, some "Scanning done!"] = _
    rw [hvulnerabilities]
    rfl
  · rw [if_pos (by omega)] at hmade ⊢
    obtain ⟨second, hsecond⟩ := hmade (countLine settings "Warnings " result.warnings "yellow") (by simp)
    obtain ⟨hwarnings, hcounted⟩ := of_countLine rfl hsecond
    rw [hsecond, if_neg hzero]
    refine ⟨?_, hwritable, hcounted⟩
    change [some "Total count:", styledText? first, styledText? second, some "Scanning done!"] = _
    rw [hvulnerabilities, hwarnings]
    rfl

end

/-! ## Faults of reports -/

/-- A result has no fault but that an integer in it has too many digits. -/
def FailsOnDigits {α : Type} (result : Except Fault α) : Prop :=
  ∀ fault, result = .error fault → fault = .numeralTooLong none

namespace FailsOnDigits

variable {α β : Type}

theorem ok (a : α) : FailsOnDigits (.ok a) := nofun

theorem written (parts : List Value) (whole : α) : FailsOnDigits (Value.written parts whole) :=
  fun _ h ↦ (Value.of_written_error h).1

theorem bind {result : Except Fault α} {next : α → Except Fault β} (h : FailsOnDigits result)
    (hnext : ∀ a, FailsOnDigits (next a)) : FailsOnDigits (result >>= next) := by
  cases result with
  | ok a => exact hnext a
  | error fault => exact fun other hother ↦ h other (by cases hother; rfl)

end FailsOnDigits

section

variable {settings : Settings} {result : Tally} {fault : Fault}

theorem failsOnDigits_resultLine : FailsOnDigits (resultLine settings result) := by
  unfold resultLine
  split
  · exact .ok _
  · refine (FailsOnDigits.written _ _).bind fun vulnerabilities ↦ ?_
    dsimp only
    split
    · exact .ok _
    · exact (FailsOnDigits.written _ _).bind fun warnings ↦ .ok _

theorem failsOnDigits_countLine (words : String) (count : Nat) (style : String) :
    FailsOnDigits (countLine settings words count style) :=
  (FailsOnDigits.written _ _).bind fun _ ↦ .ok _

theorem failsOnDigits_assetHeading (asset : Asset) : FailsOnDigits (assetHeading settings asset) :=
  (FailsOnDigits.written _ _).bind fun _ ↦ (FailsOnDigits.written _ _).bind fun _ ↦ .ok _

theorem fault_eq_of_inOrder {makes : List (Except Fault Printed)}
    (h : ∀ make ∈ makes, FailsOnDigits make) (hfault : (Printing.inOrder makes).fault = some fault) :
    fault = .numeralTooLong none :=
  h _ (Printing.mem_of_inOrder hfault) fault rfl

theorem fault_eq_of_printDetectorReport {report : DetectorReport}
    (h : ∀ finding ∈ report.findings, IsShowable (·.asset.name) finding)
    (hfault : (printDetectorReport settings report).fault = some fault) :
    fault = .numeralTooLong none := by
  have htable : FailsOnDigits (table "Asset" (·.asset.writtenName) report.findings) := by
    intro fault hfault
    obtain ⟨finding, -, hlabel⟩ := exists_of_table_error (fun _ _ ↦ Value.eq_of_written) h hfault
    exact (Value.of_written_error hlabel).1
  have hline : FailsOnDigits (Printed.styled <$> resultLine settings report.result) :=
    failsOnDigits_resultLine.bind fun _ ↦ .ok _
  refine fault_eq_of_inOrder (List.forall_mem_append.2 ⟨List.forall_mem_append.2
    ⟨List.forall_mem_singleton.2 (.ok _), ?_⟩,
    List.forall_mem_cons.2 ⟨hline, List.forall_mem_singleton.2 (.ok _)⟩⟩) hfault
  split
  · exact List.forall_mem_nil _
  · exact List.forall_mem_singleton.2 htable

theorem fault_eq_of_printAssetReport {report : AssetReport}
    (h : ∀ finding ∈ report.findings, IsShowable (.text ·.detector.name) finding)
    (hfault : (printAssetReport settings report).fault = some fault) :
    fault = .numeralTooLong none := by
  have htable : FailsOnDigits
      (table "Detector" (fun finding ↦ .ok (.text finding.detector.name)) report.findings) := by
    intro fault hfault
    obtain ⟨finding, -, hlabel⟩ :=
      exists_of_table_error (fun _ _ hv ↦ (Except.ok.inj hv).symm) h hfault
    cases hlabel
  refine fault_eq_of_inOrder ?_ hfault
  simp only [List.forall_mem_cons, List.not_mem_nil, false_implies, implies_true, and_true]
  exact ⟨failsOnDigits_assetHeading report.asset, .ok _, .ok _, htable, .ok _⟩

/-- The first fault of a report ends the printing of all. -/
theorem exists_of_printReports {reports : List Report}
    (hfault : (printReports settings reports).fault = some fault) :
    ∃ report ∈ reports, (printReport settings report).fault = some fault := by
  induction reports with
  | nil => cases hfault
  | cons report rest ih =>
    rw [printReports, Printing.andThen] at hfault
    split at hfault
    · exact ⟨report, List.mem_cons_self, hfault⟩
    · obtain ⟨later, hlater, hfault⟩ := ih hfault
      exact ⟨later, List.mem_cons_of_mem _ hlater, hfault⟩

theorem fault_eq_of_summary (hfault : (summary settings result).fault = some fault) :
    fault = .numeralTooLong none := by
  have hcounts : ∀ make ∈ [.ok (.styled (settings.styled "Total count:" "bold")),
      countLine settings "Potential vulnerabilities " result.vulnerabilities "red"],
      FailsOnDigits make :=
    List.forall_mem_cons.2 ⟨.ok _, List.forall_mem_singleton.2 (failsOnDigits_countLine _ _ _)⟩
  refine fault_eq_of_inOrder (List.forall_mem_append.2 ⟨List.forall_mem_append.2 ⟨hcounts, ?_⟩,
    List.forall_mem_singleton.2 (.ok _)⟩) hfault
  split
  · exact List.forall_mem_singleton.2 (failsOnDigits_countLine _ _ _)
  · exact List.forall_mem_nil _

end

/-! ## Faults under other settings -/

/-- Results with the same fault, if any. -/
def SameFault {α : Type} (first second : Except Fault α) : Prop :=
  ∀ fault, first = .error fault ↔ second = .error fault

namespace SameFault

variable {α β : Type}

theorem refl (result : Except Fault α) : SameFault result result := fun _ ↦ Iff.rfl

theorem ok (a b : α) : SameFault (.ok a) (.ok b) := fun _ ↦ iff_of_false nofun nofun

theorem bind (result : Except Fault α) {first second : α → Except Fault β}
    (h : ∀ a, SameFault (first a) (second a)) : SameFault (result >>= first) (result >>= second) := by
  cases result with
  | ok a => exact h a
  | error fault => exact .refl _

end SameFault

/-- Items of the same faults have the same fault one after another. -/
theorem fault_inOrder_congr {makes others : List (Except Fault Printed)}
    (h : List.Forall₂ SameFault makes others) :
    (Printing.inOrder makes).fault = (Printing.inOrder others).fault := by
  induction h with
  | nil => rfl
  | @cons make other rest later hmake _ ih =>
    cases make with
    | error fault => rw [(hmake fault).1 rfl, Printing.inOrder, Printing.inOrder]
    | ok item =>
      cases other with
      | error fault => cases (hmake fault).2 rfl
      | ok item => exact ih

section

variable (settings other : Settings)

theorem sameFault_resultLine (result : Tally) : SameFault
    (Printed.styled <$> resultLine settings result) (Printed.styled <$> resultLine other result) := by
  unfold resultLine
  split
  · exact .ok _ _
  · rw [map_bind, map_bind]
    refine .bind _ fun vulnerabilities ↦ ?_
    split
    · exact .ok _ _
    · rw [map_bind, map_bind]
      exact .bind _ fun warnings ↦ .ok _ _

theorem fault_printReport (report : Report) :
    (printReport settings report).fault = (printReport other report).fault := by
  cases report with
  | ofDetector report =>
    refine fault_inOrder_congr (List.rel_append (List.rel_append (.cons (.ok _ _) .nil) ?_)
      (.cons (sameFault_resultLine settings other _) (.cons (.ok _ _) .nil)))
    split
    · exact .nil
    · exact .cons (.refl _) .nil
  | ofAsset report =>
    have hheading : SameFault (assetHeading settings report.asset) (assetHeading other report.asset) :=
      .bind _ fun _ ↦ .bind _ fun _ ↦ .ok _ _
    exact fault_inOrder_congr (.cons hheading (.cons (.ok _ _) (.cons (.ok _ _)
      (.cons (.refl _) (.cons (.ok _ _) .nil)))))

/-- Reports have the same fault under all settings. -/
theorem fault_printReports (reports : List Report) :
    (printReports settings reports).fault = (printReports other reports).fault := by
  induction reports with
  | nil => rfl
  | cons report rest ih =>
    have hfirst := fault_printReport settings other report
    rw [printReports, printReports, Printing.andThen, Printing.andThen, hfirst]
    split
    · exact hfirst
    · exact ih

theorem fault_summary (result : Tally) :
    (summary settings result).fault = (summary other result).fault := by
  have hcount (words : String) (count : ℕ) (style : String) :
      SameFault (countLine settings words count style) (countLine other words count style) :=
    .bind _ fun _ ↦ .ok _ _
  refine fault_inOrder_congr (List.rel_append (List.rel_append
    (.cons (.ok _ _) (.cons (hcount _ _ _) .nil)) ?_) (.cons (.ok _ _) .nil))
  split
  · exact .cons (hcount _ _ _) .nil
  · exact .nil

end

end ClusterAudit.Console
