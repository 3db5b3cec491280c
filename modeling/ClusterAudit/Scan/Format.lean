import ClusterAudit.Fault
import ClusterAudit.Text.Lowercase

/-!
# Report formats

The format of a report is that of the suffix of its path, whatever the case of its letters.
-/

namespace ClusterAudit

inductive ReportFormat where
  | json
  | yaml
deriving DecidableEq, Repr

namespace ReportFormat

def name : ReportFormat → String
  | json => "json"
  | yaml => "yaml"

def ofSuffix? (suffix : String) : Option ReportFormat :=
  if suffix = ".json" then some json
  else if suffix = ".yaml" || suffix = ".yml" then some yaml
  else none

def ofPath (path : Path) : Except Fault ReportFormat :=
  let suffix := Text.lowercase path.suffix
  match ofSuffix? suffix with
  | some format => .ok format
  | none => .error (.unsupportedFormat suffix)

end ReportFormat

end ClusterAudit
