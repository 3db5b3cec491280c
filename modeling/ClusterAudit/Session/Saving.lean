import ClusterAudit.Json.Printer
import ClusterAudit.Scan.Format
import ClusterAudit.Session.Desk

/-!
# Saving reports

A report is written in the format of its path.  The format is decided before the file is opened, so
that a path with an unknown suffix leaves no file behind.  A document without a form in the format
leaves an empty file: how much of it is written before that is found out is not told here.
-/

namespace ClusterAudit.Session

open Manifest

def formatted (yaml : Yaml.Library) (format : ReportFormat) (document : Value) :
    Except Fault String :=
  match format with
  | .json => Json.write .indented document
  | .yaml => yaml.dump document

/-- Writes a document to the file at a path and gives the path back. -/
def save {m : Type → Type} [Monad m] (desk : Desk m) (file : String) (document : Value) :
    m (Except Fault Path) := do
  let path := Path.ofText file
  match ReportFormat.ofPath path with
  | .error fault => return .error fault
  | .ok format =>
    if file.contains '\x00' then return .error .nullInPath
    else
      let text := formatted desk.yaml format document
      match ← desk.write path (text.toOption.getD "") with
      | .error fault => return .error (.fileFault fault path.text)
      | .ok () => return text.map fun _ ↦ path

end ClusterAudit.Session
