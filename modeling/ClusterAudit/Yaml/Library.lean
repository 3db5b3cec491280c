import ClusterAudit.Fault
import ClusterAudit.Manifest.Value

/-!
# YAML libraries

What an audit uses of YAML is a loader and an emitter.  A loader gives the documents of a text one
after another and says why it gives no more.  Loaders may know values that no manifest has, such as
bytes, sets and lists that contain themselves: a text is loaded up to the first document of such a
value, which counts as a defect with the fault that filing it raises.
-/

namespace ClusterAudit.Yaml

open Manifest

/-- Why a text is not loaded further. -/
inductive Defect where
  /-- The text breaks the grammar of documents. -/
  | malformed
  /-- Something in the text has no value that can be filed. -/
  | fault (fault : Fault)
deriving DecidableEq, Repr

structure Library where
  /-- The documents of a text, up to the first defect. -/
  load : List Char → List Value × Option Defect
  /-- The text of a document with a value. -/
  dump : Value → Except Fault String

end ClusterAudit.Yaml
