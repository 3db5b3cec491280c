import ClusterAudit.Detector.Basic

/-!
# Reports of a scan

A scan reports either detector by detector, each with all its findings, or asset by asset, each with
the findings against it.  A tally counts findings by level; tallies of parts add up to the tally of
the whole.
-/

namespace ClusterAudit

/-- Counts of findings by level. -/
structure Tally where
  vulnerabilities : Nat := 0
  warnings : Nat := 0
deriving DecidableEq, Repr, Inhabited

namespace Tally

def add (tally : Tally) : Level → Tally
  | .vulnerability => { tally with vulnerabilities := tally.vulnerabilities + 1 }
  | .warning => { tally with warnings := tally.warnings + 1 }

def merge (a b : Tally) : Tally :=
  ⟨a.vulnerabilities + b.vulnerabilities, a.warnings + b.warnings⟩

def total (tally : Tally) : Nat := tally.vulnerabilities + tally.warnings

def ofFindings (findings : List Finding) : Tally :=
  findings.foldl (fun tally finding ↦ tally.add finding.detector.level) {}

end Tally

/-- The findings of one detector. -/
structure DetectorReport where
  detector : Detector
  findings : List Finding
  result : Tally

/-- The findings against one asset. -/
structure AssetReport where
  asset : Asset
  findings : List Finding

/-- The names of the detectors that have findings against the asset. -/
def AssetReport.detectorNames (report : AssetReport) : List String :=
  report.findings.map (·.detector.name)

/-- A report about a detector or about an asset. -/
inductive Report where
  | ofDetector (report : DetectorReport)
  | ofAsset (report : AssetReport)

/-- The reports of a scan, in one of the two groupings. -/
inductive Reports where
  | byDetector (reports : List DetectorReport)
  | byAsset (reports : List AssetReport)

structure ScanOutcome where
  result : Tally
  reports : Reports

end ClusterAudit
