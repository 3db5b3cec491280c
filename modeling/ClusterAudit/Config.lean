import ClusterAudit.Detector.Catalog

/-!
# The configuration of an audit

The configuration says which detectors run, on what, and how their findings are shown.
-/

namespace ClusterAudit

/-- What is audited, and how. -/
structure AuditConfig where
  rbac : Selection := none
  isolation : Selection := none
  podSecurity : Selection := none
  groupByAsset : Bool := false
  quiet : Bool := false
  color : Bool := false
  includeDefaults : Bool := false
  outputFile : Option String := none
  snapshotFiles : List String := []
  context : Option String := none
  interactive : Bool := false
  verbose : Bool := false
deriving DecidableEq, Repr, Inhabited

namespace AuditConfig

/-- What is selected from a catalog. -/
def selection (config : AuditConfig) : Catalog → Selection
  | .rbac => config.rbac
  | .isolation => config.isolation
  | .podSecurity => config.podSecurity

def detectorsOf (config : AuditConfig) (catalog : Catalog) : List Detector :=
  select catalog.detectors (config.selection catalog)

/-- All selected detectors, catalog by catalog. -/
def detectors (config : AuditConfig) : List Detector :=
  Catalog.all.flatMap config.detectorsOf

end AuditConfig

end ClusterAudit
