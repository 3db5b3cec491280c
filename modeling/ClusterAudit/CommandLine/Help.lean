import ClusterAudit.CommandLine.Option

/-!
# The help text

The help text has one line for each option, with its spellings, its argument and its purpose.
-/

namespace ClusterAudit.CommandLine

namespace OptionName

def purpose : OptionName → String
  | help => "Show this text"
  | all => "Run all detectors (default when no catalog is selected)"
  | rbac => "Run RBAC detectors, all of them when no list is given"
  | isolation => "Run node isolation detectors, all of them when no list is given"
  | podSecurity => "Run pod security policy detectors, all of them when no list is given"
  | assets => "Report per asset instead of per detector"
  | quiet => "Omit detector explanations and recommendations"
  | color => "Colorize the report"
  | defaults => "Include objects present in a default cluster"
  | output => "Save the report as JSON or YAML (by extension)"
  | snapshot => "Audit manifests from FILE instead of a live cluster (repeatable)"
  | context => "Kubeconfig context to use"
  | interactive => "Choose detectors and report saving interactively"
  | verbose => "Enable debug logging"

def argumentText : OptionName → String
  | rbac | isolation | podSecurity => " [1,2,...]"
  | output | snapshot => " FILE"
  | context => " CONTEXT"
  | _ => ""

def helpLine (name : OptionName) : String :=
  "  " ++ ", ".intercalate name.spellings ++ name.argumentText ++ "\n        " ++ name.purpose ++ "\n"

end OptionName

def programName : String := "k8s-auditor"

/-- The first line of the help text. -/
def usage : String :=
  "usage: " ++ programName ++ " [options]\n"

def helpText : String :=
  usage ++ "\nAudit a Kubernetes cluster's RBAC, node isolation and pod security policy " ++
    "configuration against CIS benchmark rules.\n\noptions:\n" ++
    String.join (OptionName.every.map OptionName.helpLine)

end ClusterAudit.CommandLine
