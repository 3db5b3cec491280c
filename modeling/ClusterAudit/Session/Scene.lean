import ClusterAudit.Session.Desk
import ClusterAudit.Text.Utf8

/-!
# Scenes

A scene is a desk with files in memory, answers given beforehand and a clock that stands still.  It
notes what is shown and asked, in order.
-/

namespace ClusterAudit.Session

open Manifest

inductive Event where
  | shown (shown : Shown)
  | asked (question : Question)
deriving DecidableEq, Repr

structure Scene where
  files : Directory := {}
  now : Moment
  detectorAnswer : Answer (List (Catalog × Int)) := .cancelled
  groupingAnswer : Answer Bool := .cancelled
  savingAnswer : Answer Bool := .cancelled
  fileAnswer : Answer String := .cancelled
  events : List Event := []

namespace Scene

def note (event : Event) : StateM Scene Unit :=
  modify fun scene ↦ { scene with events := scene.events ++ [event] }

def answer {α : Type} (question : Question) (given : Scene → Answer α) :
    StateM Scene (Answer α) := do
  note (.asked question)
  return given (← get)

def write (path : Path) (text : String) : StateM Scene (Except FileFault Unit) := do
  match (← get).files.write path text.toUTF8.toList with
  | .error fault => return .error fault
  | .ok files =>
    modify fun scene ↦ { scene with files }
    return .ok ()

def desk (equipment : Equipment) : Desk (StateM Scene) where
  toEquipment := equipment
  display shown := note (.shown shown)
  askDetectors choices := answer (.detectors choices) (·.detectorAnswer)
  askGrouping byAsset := answer (.grouping byAsset) (·.groupingAnswer)
  askSaving := answer .saving (·.savingAnswer)
  askReportFile suggestion := answer (.reportFile suggestion) (·.fileAnswer)
  read path := return (← get).files.read path
  write := write
  now := return (← get).now

end Scene

end ClusterAudit.Session
