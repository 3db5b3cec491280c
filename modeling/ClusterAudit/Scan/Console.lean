import ClusterAudit.Scan.Report

/-!
# Reports on the console

Reports are handed to the console as styled texts, panels and tables.  The quiet setting leaves out the
explanations and the color setting chooses the styles; the rows of the tables, the result lines and the
counts do not depend on either.  A table has one row for each piece of evidence, and the first row of a
finding names the asset or the detector.  A table with a cell that is neither text nor empty cannot be
made, nor can a line with a number of too many digits.  How the console prints what it gets is not told
here, but it may refuse an item, for example because it takes a text in brackets for a mark that closes
nothing.
-/

namespace ClusterAudit.Console

open Manifest

structure Settings where
  quiet : Bool := false
  color : Bool := false
deriving DecidableEq, Repr, Inhabited

/-! ## Styled text -/

/-- A styled piece of a text, from one offset to another. -/
structure Span where
  start : Nat
  stop : Nat
  style : String
deriving DecidableEq, Repr, Inhabited

/-- A text with a style of its own and styled pieces. -/
structure StyledText where
  text : String
  style : String := ""
  spans : List Span := []
deriving DecidableEq, Repr, Inhabited

/-- Bell, backspace, vertical tab, form feed and carriage return, which never reach the console. -/
def isControlCode (c : Char) : Bool :=
  c = '\x07' || c = '\x08' || c = '\x0b' || c = '\x0c' || c = '\r'

/-- The text without control codes. -/
def withoutControlCodes (text : String) : String :=
  String.ofList (text.toList.filter fun c ↦ !isControlCode c)

namespace StyledText

def styled (text style : String) : StyledText :=
  { text := withoutControlCodes text, style }

/-- The text with a piece appended; a piece without style adds no span. -/
def append (whole : StyledText) (piece style : String) : StyledText :=
  let added := withoutControlCodes piece
  let start := whole.text.length
  { whole with
    text := whole.text ++ added
    spans := whole.spans ++
      if piece = "" || style = "" then [] else [⟨start, start + added.length, style⟩] }

end StyledText

/-! ## Printed items -/

structure Column where
  header : String
  style : String
  overflow : String
deriving DecidableEq, Repr, Inhabited

inductive Printed where
  | line (text : String)
  | styled (text : StyledText)
  | panel (body title : StyledText)
  | table (columns : List Column) (rows : List (List String))
deriving DecidableEq, Repr, Inhabited

/-- The fault with which a console refuses to print an item, if it does. -/
abbrev Screen := Printed → Option Fault

/-- A style that counts only with colors. -/
def Settings.style (settings : Settings) (style : String) : String :=
  if settings.color then style else ""

/-- A text that is styled only with colors. -/
def Settings.styled (settings : Settings) (text style : String) : StyledText :=
  .styled text (settings.style style)

def levelColor : Level → String
  | .vulnerability => "red"
  | .warning => "yellow"

def severityColor : Severity → String
  | .high => "red"
  | .medium => "orange1"
  | .low => "yellow"

/-! ## Tables -/

/-- A cell: a text is handed on as it is, and null as an empty one. -/
def cell : Value → Except Fault String
  | .text s => .ok s
  | .null => .ok ""
  | _ => .error .cellNotText

def row (label : Value) (detail : Detail) : Except Fault (List String) := do
  return [← cell label, detail.key, ← cell detail.value]

/-- The rows of a finding, of which only the first one has the label. -/
def findingRows (label : Value) : List Detail → Except Fault (List (List String))
  | [] => .ok []
  | detail :: rest => do
    let first ← row label detail
    let others ← rest.mapM (row (.text ""))
    return first :: others

/-- The columns of a table whose first column has the given header. -/
def columns (header : String) : List Column :=
  [⟨header, "bold", "ellipsis"⟩, ⟨"Key", "", "ellipsis"⟩, ⟨"Value", "", "fold"⟩]

/-- The table of findings, labelled by the given function. -/
def table (header : String) (label : Finding → Except Fault Value) (findings : List Finding) :
    Except Fault Printed := do
  let rows ← findings.mapM fun finding ↦ do findingRows (← label finding) finding.details
  return .table (columns header) rows.flatten

/-! ## Lines -/

def resultLine (settings : Settings) (result : Tally) : Except Fault StyledText := do
  if result.total = 0 then return settings.styled "No misconfigurations found." "green"
  else
    let vulnerabilities ← Value.display (.int result.vulnerabilities)
    let line := (StyledText.styled "Scanning result: " "").append
      (vulnerabilities ++ " potential vulnerabilities") (settings.style "red")
    if result.warnings = 0 then return line
    else
      let warnings ← Value.display (.int result.warnings)
      return (line.append ", " "").append (warnings ++ " warnings") (settings.style "yellow")

def countLine (settings : Settings) (words : String) (count : Nat) (style : String) :
    Except Fault Printed := do
  return .styled (settings.styled (words ++ (← Value.display (.int count))) style)

def explanation (settings : Settings) (detector : Detector) : StyledText :=
  let body := (((((StyledText.styled "" "").append "Explanation: " "bold").append
    (detector.explanation ++ "\n") "").append "Remediation: " "bold").append
    (detector.recommendation ++ "\n") "").append "Useful links: " "bold"
  let links := body.append (", ".intercalate detector.urls ++ "\n") ""
  let level := (links.append "Level: " "bold").append detector.level.name
    (settings.style (levelColor detector.level))
  (level.append "  Severity: " "bold").append detector.severity.name
    (settings.style (severityColor detector.severity))

/-! ## Reports -/

/-- What is printed, and the fault that ends the printing. -/
structure Printing where
  items : List Printed
  fault : Option Fault := none
deriving DecidableEq, Repr, Inhabited

namespace Printing

/-- Items one after another, up to the first one that cannot be made. -/
def inOrder : List (Except Fault Printed) → Printing
  | [] => ⟨[], none⟩
  | .error fault :: _ => ⟨[], some fault⟩
  | .ok item :: rest =>
    let later := inOrder rest
    ⟨item :: later.items, later.fault⟩

/-- A printing that is followed by another one, unless a fault has ended it. -/
def andThen (first second : Printing) : Printing :=
  match first.fault with
  | some _ => first
  | none => ⟨first.items ++ second.items, second.fault⟩

/-- What is printed of some items and a fault behind them, up to the first item that is refused. -/
def upTo (screen : Screen) (fault : Option Fault) : List Printed → Printing
  | [] => ⟨[], fault⟩
  | item :: rest =>
    match screen item with
    | some refusal => ⟨[], some refusal⟩
    | none =>
      let later := upTo screen fault rest
      ⟨item :: later.items, later.fault⟩

/-- What is printed at a console that may refuse items. -/
def on (screen : Screen) (printing : Printing) : Printing :=
  upTo screen printing.fault printing.items

end Printing

/-- The heading of a detector, in a panel with its explanation unless the setting is quiet. -/
def detectorHeading (settings : Settings) (detector : Detector) : Printed :=
  let header := settings.styled ("Detector: " ++ detector.name) "bold cyan"
  if settings.quiet then .styled header else .panel (explanation settings detector) header

def printDetectorReport (settings : Settings) (report : DetectorReport) : Printing :=
  let findings := if report.findings.isEmpty then []
    else [table "Asset" (·.asset.writtenName) report.findings]
  .inOrder ([.ok (detectorHeading settings report.detector)] ++ findings ++
    [.styled <$> resultLine settings report.result, .ok (.line "")])

def assetHeading (settings : Settings) (asset : Asset) : Except Fault Printed := do
  let name ← (← asset.writtenName).display
  return .styled (settings.styled ("Asset: " ++ name) "bold cyan")

def printAssetReport (settings : Settings) (report : AssetReport) : Printing :=
  .inOrder [assetHeading settings report.asset, .ok (.line ("Kind: " ++ report.asset.kind.name)),
    .ok (.line ("Detectors: " ++ ", ".intercalate report.detectorNames)),
    table "Detector" (fun finding ↦ .ok (.text finding.detector.name)) report.findings,
    .ok (.line "")]

def printReport (settings : Settings) : Report → Printing
  | .ofDetector report => printDetectorReport settings report
  | .ofAsset report => printAssetReport settings report

/-- The fault with which a console ends a scan when it gets a report, if it does. -/
def audience (settings : Settings) (screen : Screen) (report : Report) : Option Fault :=
  ((printReport settings report).on screen).fault

/-- Reports one after another, up to the first fault. -/
def printReports (settings : Settings) : List Report → Printing
  | [] => ⟨[], none⟩
  | report :: rest => (printReport settings report).andThen (printReports settings rest)

def summary (settings : Settings) (result : Tally) : Printing :=
  let warnings := if 0 < result.warnings then
      [countLine settings "Warnings " result.warnings "yellow"]
    else []
  .inOrder ([.ok (.styled (settings.styled "Total count:" "bold")),
    countLine settings "Potential vulnerabilities " result.vulnerabilities "red"] ++ warnings ++
    [.ok (.styled (settings.styled "Scanning done!" "bold green"))])

end ClusterAudit.Console
