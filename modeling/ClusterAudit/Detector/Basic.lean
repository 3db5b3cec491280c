import ClusterAudit.Asset.Basic

/-!
# Detectors

A detector looks at assets of its kinds and gives the evidence that an asset breaks its rule; no
evidence means that the asset passes.  Evidence is a list of named values.  A finding joins a
detector with an asset and the evidence against it.
-/

namespace ClusterAudit

open Manifest

structure Detail where
  key : String
  value : Value
deriving DecidableEq, Repr, Inhabited

def Detail.ofText (key text : String) : Detail := ⟨key, .text text⟩

inductive Level where
  | vulnerability
  | warning
deriving DecidableEq, Repr, Inhabited

def Level.name : Level → String
  | .vulnerability => "VULNERABILITY"
  | .warning => "WARNING"

inductive Severity where
  | low
  | medium
  | high
deriving DecidableEq, Repr, Inhabited

def Severity.name : Severity → String
  | .low => "LOW"
  | .medium => "MEDIUM"
  | .high => "HIGH"

/-- A rule about assets, with the texts that explain it. -/
structure Detector where
  name : String
  kinds : List AssetKind
  /-- The evidence against an asset. -/
  check : Asset → Except Fault (List Detail)
  explanation : String
  recommendation : String
  urls : List String
  level : Level := .vulnerability
  severity : Severity := .medium

namespace Detector

def appliesTo (detector : Detector) (kind : AssetKind) : Bool :=
  detector.kinds.contains kind

/-- The evidence against an asset; there is none against a missing asset and against one of another
kind. -/
def evaluate (detector : Detector) (asset : Option Asset) : Except Fault (List Detail) :=
  match asset with
  | none => .ok []
  | some asset => if detector.appliesTo asset.kind then detector.check asset else .ok []

end Detector

/-- Evidence that a detector has against an asset. -/
structure Finding where
  detector : Detector
  asset : Asset
  details : List Detail

end ClusterAudit
