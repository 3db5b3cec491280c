import ClusterAudit.Detector.Isolation
import ClusterAudit.Detector.PodSecurity
import ClusterAudit.Detector.Rbac

/-!
# The catalogs of detectors

There are three catalogs, and detectors are selected from a catalog by their positions, counted from
one.  A selection keeps the order of the catalog and passes over positions outside it.
-/

namespace ClusterAudit

inductive Catalog where
  | rbac
  | isolation
  | podSecurity
deriving DecidableEq, Repr, Inhabited

namespace Catalog

/-- All catalogs in order. -/
def all : List Catalog := [rbac, isolation, podSecurity]

def name : Catalog → String
  | rbac => "rbac"
  | isolation => "isolation"
  | podSecurity => "psp"

def heading : Catalog → String
  | rbac => "RBAC"
  | isolation => "Isolation"
  | podSecurity => "PSP"

def ofName? (name : String) : Option Catalog :=
  all.find? fun catalog ↦ catalog.name = name

def detectors : Catalog → List Detector
  | rbac => Detector.rbacCatalog
  | isolation => Detector.isolationCatalog
  | podSecurity => Detector.podSecurityCatalog

end Catalog

namespace Detector

def all : List Detector :=
  Catalog.all.flatMap Catalog.detectors

def ofName (name : String) : Except Fault Detector :=
  match all.find? fun detector ↦ detector.name = name with
  | some detector => .ok detector
  | none => .error (.unknownDetector name)

/-- The kinds that some detectors look at, each once, in order of first occurrence. -/
def assetKinds (detectors : List Detector) : List AssetKind :=
  AssetKind.distinct (detectors.flatMap (·.kinds))

end Detector

/-- Which detectors of a catalog are wanted: all of them, or those at the given positions. -/
abbrev Selection := Option (List Int)

/-- The detectors of a list whose positions, counted from a number, are among the given ones. -/
def selectFrom (position : Int) (indices : List Int) : List Detector → List Detector
  | [] => []
  | detector :: rest =>
    if indices.contains position then detector :: selectFrom (position + 1) indices rest
    else selectFrom (position + 1) indices rest

/-- The selected detectors of a list, in its order. -/
def select (detectors : List Detector) (selection : Selection) : List Detector :=
  match selection with
  | none => detectors
  | some indices => selectFrom 1 indices detectors

end ClusterAudit
