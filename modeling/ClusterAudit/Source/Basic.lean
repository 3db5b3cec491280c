import ClusterAudit.Asset.Basic
import ClusterAudit.Defaults

/-!
# Sources of assets

A source fetches the assets of a kind and knows the names of the default objects.  Fetching changes
the state of the source and may fail, and a failure keeps the state that the source has reached.
Sources that list manifests share the way from manifests to assets; derived kinds are not listed.
-/

namespace ClusterAudit

open Manifest

/-- A step of a source with state, which may fail and then keeps the state reached. -/
abbrev SourceM (σ : Type) := ExceptT Fault (StateM σ)

/-- A source of assets with state. -/
structure AssetSource (σ : Type) where
  fetch : AssetKind → SourceM σ (List Asset)
  defaultNames : AssetKind → List String

/-- What a source asks of the outside. -/
inductive Call where
  /-- The user configuration for a context. -/
  | userConfiguration (context : Option String)
  /-- The configuration inside a cluster. -/
  | clusterConfiguration
  /-- The list of the objects of a kind. -/
  | list (kind : AssetKind)
  /-- The list of the pod security policies as custom objects. -/
  | listPolicies
deriving DecidableEq, Repr

namespace AssetSource

/-- The source that reads the assets of a kind from the manifests listed for it. -/
def ofManifests {σ : Type} (list : AssetKind → SourceM σ (List Value))
    (defaultNames : AssetKind → List String) : AssetSource σ where
  fetch kind :=
    if kind.isDerived then throw (.derivedNotFetched kind)
    else do
      let docs ← list kind
      liftExcept (docs.mapM (Asset.ofManifest kind))
  defaultNames
where
  /-- A computation without state as a step. -/
  liftExcept {α : Type} (result : Except Fault α) : SourceM σ α :=
    ExceptT.mk (pure result)

end AssetSource

end ClusterAudit
