import ClusterAudit.Source.Basic
import ClusterAudit.Source.Filing

/-!
# Snapshots

A snapshot holds manifests by kind, in the order in which they were added.  Listing a kind gives its
manifests and changes nothing but the record of calls.  Kinds with an outage cannot be listed.
-/

namespace ClusterAudit

open Manifest

structure Snapshot where
  /-- The filed manifests, each with its kind. -/
  manifests : List (AssetKind × Value) := []
  /-- The kinds that cannot be listed, with the reasons. -/
  outages : List (AssetKind × String) := []
  /-- What was asked so far. -/
  calls : List Call := []
deriving DecidableEq, Repr, Inhabited

namespace Snapshot

def manifestsOf (snapshot : Snapshot) (kind : AssetKind) : List Value :=
  (snapshot.manifests.filter fun entry ↦ entry.1 = kind).map (·.2)

/-- Adds a document; what is filed before a fault stays. -/
def add (doc : Value) : SourceM Snapshot Unit := do
  let filing := Filing.ofDocument doc
  modify fun snapshot ↦ { snapshot with manifests := snapshot.manifests ++ filing.filed }
  match filing.fault with
  | some fault => throw fault
  | none => pure ()

/-- Adds documents one after another. -/
def addAll : List Value → SourceM Snapshot Unit
  | [] => pure ()
  | doc :: rest => do add doc; addAll rest

/-- The manifests of a kind, unless it has an outage. -/
def list (kind : AssetKind) : SourceM Snapshot (List Value) := do
  modify fun snapshot ↦ { snapshot with calls := snapshot.calls ++ [.list kind] }
  let snapshot ← get
  match snapshot.outages.find? fun outage ↦ outage.1 = kind with
  | some outage => throw (.notFetched kind outage.2)
  | none => return snapshot.manifestsOf kind

def source (defaultNames : AssetKind → List String) : AssetSource Snapshot :=
  .ofManifests list defaultNames

end Snapshot

end ClusterAudit
