import ClusterAudit.Files.Directory
import ClusterAudit.Config
import ClusterAudit.Manifest.Calendar
import ClusterAudit.Scan.Console
import ClusterAudit.Yaml.Library

/-!
# The desk of a session

A session shows things, asks questions and uses files at a desk.  The desk is all that a session
knows of the outside, so a session runs alike at a terminal and at a desk that only notes what
happens.
-/

namespace ClusterAudit.Session

open Manifest

/-! ## Questions -/

/-- A line in the list of detectors to choose from. -/
inductive Choice where
  | heading (text : String)
  | detector (catalog : Catalog) (position : Nat) (name : String) (ticked : Bool)
deriving DecidableEq, Repr

namespace Choice

def title : Choice → String
  | heading text => "-- " ++ text ++ " --"
  | detector _ position name _ => toString position ++ ". " ++ name

end Choice

inductive Question where
  /-- Which detectors are to run. -/
  | detectors (choices : List Choice)
  /-- How the findings are grouped, by asset or by detector. -/
  | grouping (byAsset : Bool)
  /-- Whether the report is saved. -/
  | saving
  /-- Where the report is saved. -/
  | reportFile (suggestion : String)
deriving DecidableEq, Repr

namespace Question

def message : Question → String
  | detectors _ => "Select the detectors to run:"
  | grouping _ => "How should findings be grouped?"
  | saving => "Save the report to a file?"
  | reportFile _ => "Report file (.json, .yaml or .yml):"

/-- The titles of the two groupings, by detector and by asset. -/
def groupings : List (String × Bool) :=
  [("By detector", false), ("By asset", true)]

end Question

/-- What is answered to a question. -/
inductive Answer (α : Type) where
  | given (answer : α)
  /-- The question was cancelled. -/
  | cancelled
  /-- The session was interrupted. -/
  | interrupted
deriving DecidableEq, Repr

/-! ## The desk -/

/-- Something that a session shows. -/
inductive Shown where
  /-- The journal is set up. -/
  | journal (verbose : Bool)
  | line (text : String)
  /-- What the session is busy with. -/
  | status (text : String)
  /-- Reports are shown from here on. -/
  | reports (color : Bool)
  | item (item : Console.Printed)
deriving DecidableEq, Repr

/-- What a desk is equipped with. -/
structure Equipment where
  /-- The picture at the beginning. -/
  banner : String
  /-- What the console refuses to print.  Lines of fixed wording are never refused. -/
  screen : Console.Screen
  yaml : Yaml.Library

/-- What a session uses of the outside. -/
structure Desk (m : Type → Type) extends Equipment where
  display : Shown → m Unit
  askDetectors : List Choice → m (Answer (List (Catalog × Int)))
  askGrouping : Bool → m (Answer Bool)
  askSaving : m (Answer Bool)
  askReportFile : String → m (Answer String)
  read : Path → m (Except FileFault (List UInt8))
  write : Path → String → m (Except FileFault Unit)
  now : m Moment

end ClusterAudit.Session
