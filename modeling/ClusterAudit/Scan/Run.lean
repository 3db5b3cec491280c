import ClusterAudit.Config
import ClusterAudit.Inventory

/-!
# Running a scan

A scan learns every kind that its detectors need before any of them runs, so that a fetch that fails
ends the scan before anything is reported.  It then goes either through the detectors, each over all
assets of its kinds, or through the assets, each against all detectors that apply to it.  Every
report is handed on as soon as it is made; whoever takes the reports may end the scan with a fault.
-/

namespace ClusterAudit.Scan

variable {σ : Type}

/-- What takes the reports of a scan; it gives the fault with which the scan is to end, if any. -/
abbrev Audience := Report → Option Fault

/-- The finding of a detector against an asset, if there is evidence. -/
def findingOf (detector : Detector) (asset : Asset) : Except Fault (Option Finding) := do
  let details ← detector.evaluate (some asset)
  return if details.isEmpty then none else some ⟨detector, asset, details⟩

def findingsOfDetector (detector : Detector) (assets : List Asset) :
    Except Fault (List Finding) := do
  return (← assets.mapM (findingOf detector)).filterMap id

/-- The findings against an asset of the detectors that apply to it. -/
def findingsAgainst (detectors : List Detector) (asset : Asset) :
    Except Fault (List Finding) := do
  let applying := detectors.filter fun detector ↦ detector.appliesTo asset.kind
  return (← applying.mapM fun detector ↦ findingOf detector asset).filterMap id

def handOn (audience : Audience) (report : Report) : InventoryM σ Unit := do
  Inventory.note (.reported report)
  match audience report with
  | some fault => throw fault
  | none => pure ()

def runDetector (inventory : Inventory σ) (detector : Detector) :
    InventoryM σ DetectorReport := do
  let assets ← inventory.getAssets detector.kinds
  let findings ← Inventory.lift (findingsOfDetector detector assets)
  return { detector, findings, result := Tally.ofFindings findings }

/-- Runs detectors one after another. -/
def runDetectors (inventory : Inventory σ) (audience : Audience) :
    List Detector → InventoryM σ (List DetectorReport)
  | [] => return []
  | detector :: rest => do
    let report ← runDetector inventory detector
    handOn audience (.ofDetector report)
    let others ← runDetectors inventory audience rest
    return report :: others

/-- Runs detectors against assets one after another; only assets with findings are reported. -/
def runAssets (detectors : List Detector) (audience : Audience) :
    List Asset → InventoryM σ (List AssetReport)
  | [] => return []
  | asset :: rest => do
    let findings ← Inventory.lift (findingsAgainst detectors asset)
    if findings.isEmpty then runAssets detectors audience rest
    else do
      let report : AssetReport := { asset, findings }
      handOn audience (.ofAsset report)
      let others ← runAssets detectors audience rest
      return report :: others

def learn (inventory : Inventory σ) (detectors : List Detector) : InventoryM σ Unit := do
  let kinds := Detector.assetKinds detectors
  inventory.prefetch (requiredKinds kinds)
  inventory.prefetch kinds

def run (config : AuditConfig) (inventory : Inventory σ) (audience : Audience) :
    InventoryM σ ScanOutcome := do
  learn inventory config.detectors
  if config.groupByAsset then do
    let assets ← inventory.getAssets (Detector.assetKinds config.detectors)
    let reports ← runAssets config.detectors audience assets
    return {
      result := Tally.ofFindings (reports.flatMap (·.findings))
      reports := .byAsset reports }
  else do
    let reports ← runDetectors inventory audience config.detectors
    return {
      result := (reports.map (·.result)).foldl Tally.merge {}
      reports := .byDetector reports }

end ClusterAudit.Scan
