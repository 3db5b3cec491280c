import ClusterAudit.Scan.Report

/-!
# Scan reports as documents

The outcome of a scan is written to a file as one document: when it was made, the tally, and either
the detectors with their findings or the assets with theirs.  The document is a value, so that every
format that writes values writes reports.  A document is drafted with the names of all its assets;
there is none when one of the names is not written.
-/

namespace ClusterAudit

open Manifest

namespace Document

def record (fields : List (String × Value)) : Value :=
  .map (fields.map fun (name, value) ↦ (.text name, value))

def texts (ts : List String) : Value := .list (ts.map .text)

def ofTally (tally : Tally) : Value :=
  record [("vulnerabilities", .int tally.vulnerabilities), ("warnings", .int tally.warnings)]

def ofDetails (details : List Detail) : Value :=
  .list (details.map fun detail ↦ record [("key", .text detail.key), ("value", detail.value)])

def detectorFields (detector : Detector) : List (String × Value) :=
  [("name", .text detector.name), ("asset_kinds", texts (detector.kinds.map AssetKind.name)),
    ("level", .text detector.level.name), ("severity", .text detector.severity.name),
    ("explanation", .text detector.explanation),
    ("recommendation", .text detector.recommendation), ("urls", texts detector.urls)]

def findingOfDetector (finding : Finding) : Value :=
  record [("asset", finding.asset.name), ("kind", .text finding.asset.kind.name),
    ("details", ofDetails finding.details)]

def findingOfAsset (finding : Finding) : Value :=
  record [("detector", .text finding.detector.name), ("asset", finding.asset.name),
    ("kind", .text finding.asset.kind.name), ("level", .text finding.detector.level.name),
    ("severity", .text finding.detector.severity.name), ("details", ofDetails finding.details)]

def ofDetectorReport (report : DetectorReport) : Value :=
  record (detectorFields report.detector ++
    [("findings", .list (report.findings.map findingOfDetector)),
      ("result", ofTally report.result)])

def ofAssetReport (report : AssetReport) : Value :=
  record [("asset", report.asset.name), ("kind", .text report.asset.kind.name),
    ("detectors", texts report.detectorNames),
    ("findings", .list (report.findings.map findingOfAsset))]

def ofReports : Reports → String × Value
  | .byDetector reports => ("detectors", .list (reports.map ofDetectorReport))
  | .byAsset reports => ("assets", .list (reports.map ofAssetReport))

/-- What a document of an outcome says, made at the given moment. -/
def draft (outcome : ScanOutcome) (madeAt : Moment) : Value :=
  record [("generated_at", .text madeAt.stamp), ("total", ofTally outcome.result),
    ofReports outcome.reports]

/-- The assets that are named in the reports, in order. -/
def namedAssets : Reports → List Asset
  | .byDetector reports => reports.flatMap fun report ↦ report.findings.map (·.asset)
  | .byAsset reports => reports.flatMap fun report ↦ report.asset :: report.findings.map (·.asset)

/-- The document of an outcome, if the names in it are written. -/
def ofOutcome (outcome : ScanOutcome) (madeAt : Moment) : Except Fault Value :=
  Value.written ((namedAssets outcome.reports).flatMap Asset.nameParts) (draft outcome madeAt)

end Document

end ClusterAudit
