import ClusterAudit.Escalation.Dependency
import ClusterAudit.Scan.Report
import ClusterAudit.Source.Basic

/-!
# The inventory of a scan

An inventory fetches the assets of each kind at most once and remembers them, so that a scan sees one
state of the cluster.  Default objects are left out unless they are wanted.  Pairs and dependencies
are derived from what the inventory knows; pods are asked for only when there is a node to pair them
with.  All fetches and all reports are noted in the order in which they happen.
-/

namespace ClusterAudit

open Manifest

/-- Something that a scan does to the outside. -/
inductive Activity where
  | fetched (kind : AssetKind)
  | reported (report : Report)

structure InventoryState (σ : Type) where
  source : σ
  /-- The kinds that are known, with their assets, in the order in which they were learnt. -/
  known : List (AssetKind × List Asset) := []
  activities : List Activity := []

/-- A step of an inventory, which may fail and then keeps the state reached. -/
abbrev InventoryM (σ : Type) := ExceptT Fault (StateM (InventoryState σ))

/-- A source whose assets are remembered. -/
structure Inventory (σ : Type) where
  source : AssetSource σ
  includeDefaults : Bool

namespace Inventory

variable {σ : Type}

/-- A computation without state as a step. -/
def lift {α : Type} (result : Except Fault α) : InventoryM σ α :=
  ExceptT.mk (pure result)

def note (activity : Activity) : InventoryM σ Unit :=
  modify fun state ↦ { state with activities := state.activities ++ [activity] }

/-- Fetches the assets of a kind from the source. -/
def fetch (inventory : Inventory σ) (kind : AssetKind) : InventoryM σ (List Asset) := do
  note (.fetched kind)
  ExceptT.mk fun state ↦
    let (result, source) := (inventory.source.fetch kind).run state.source
    (result, { state with source })

/-- Whether the name of an asset is among the names; the name has to be a key. -/
def isNamed (names : List String) (asset : Asset) : Except Fault Bool := do
  match ← (← asset.writtenName).asKey with
  | .text name => return names.contains name
  | _ => return false

/-- The assets whose names are not among the given ones. -/
def withoutNames (names : List String) : List Asset → Except Fault (List Asset)
  | [] => .ok []
  | asset :: rest => do
    let named ← isNamed names asset
    let others ← withoutNames names rest
    return if named then others else asset :: others

/-- Fetches the assets of a kind and leaves out the default objects unless they are wanted. -/
def fetchWanted (inventory : Inventory σ) (kind : AssetKind) : InventoryM σ (List Asset) := do
  let assets ← inventory.fetch kind
  if inventory.includeDefaults then return assets
  else lift (withoutNames (inventory.source.defaultNames kind) assets)

def known? (known : List (AssetKind × List Asset)) (kind : AssetKind) : Option (List Asset) :=
  (known.find? fun entry ↦ entry.1 = kind).map (·.2)

/-- The remembered assets of a kind, or those that `load` gives, which are then remembered. -/
def remembered (kind : AssetKind) (load : InventoryM σ (List Asset)) :
    InventoryM σ (List Asset) := do
  match known? (← get).known kind with
  | some assets => return assets
  | none => do
    let assets ← load
    modify fun state ↦ { state with known := state.known ++ [(kind, assets)] }
    return assets

def primary (inventory : Inventory σ) (kind : AssetKind) : InventoryM σ (List Asset) :=
  remembered kind (inventory.fetchWanted kind)

/-- All nodes paired with all pods, node by node. -/
def pairs (nodes : List Node) (pods : List Pod) : List Asset :=
  nodes.flatMap fun node ↦ pods.map fun pod ↦ .schedulingPair ⟨some node, some pod⟩

def derivePairs (inventory : Inventory σ) : InventoryM σ (List Asset) := do
  let nodes := (← inventory.primary .node).filterMap Asset.asNode?
  if nodes.isEmpty then return []
  else
    let pods := (← inventory.primary .pod).filterMap Asset.asPod?
    return pairs nodes pods

def resolveKinds (inventory : Inventory σ) (nodes : List Node) (pods : List Pod)
    (bindingKind roleKind : AssetKind) : InventoryM σ (List EscalationDependency) := do
  let bindings := (← inventory.primary bindingKind).filterMap Asset.asBinding?
  let roles := (← inventory.primary roleKind).filterMap Asset.asRole?
  lift <| Escalation.resolve bindings roles nodes pods
    (inventory.source.defaultNames .serviceAccount) inventory.includeDefaults

/-- Derives the escalation dependencies: those of cluster-wide bindings, then the namespaced ones. -/
def deriveDependencies (inventory : Inventory σ) : InventoryM σ (List Asset) := do
  let nodes := (← inventory.primary .node).filterMap Asset.asNode?
  let pods := (← inventory.primary .pod).filterMap Asset.asPod?
  let clusterWide ← inventory.resolveKinds nodes pods .clusterRoleBinding .clusterRole
  let namespaced ← inventory.resolveKinds nodes pods .roleBinding .role
  return (clusterWide ++ namespaced).map .escalationDependency

def assetsOf (inventory : Inventory σ) (kind : AssetKind) : InventoryM σ (List Asset) :=
  match kind with
  | .schedulingPair => remembered kind inventory.derivePairs
  | .escalationDependency => remembered kind inventory.deriveDependencies
  | _ => inventory.primary kind

/-- The assets of the kinds, kind by kind. -/
def getAssets (inventory : Inventory σ) : List AssetKind → InventoryM σ (List Asset)
  | [] => return []
  | kind :: rest => do
    let assets ← inventory.assetsOf kind
    let others ← inventory.getAssets rest
    return assets ++ others

/-- Learns the kinds, so that asking for them later cannot fail. -/
def prefetch (inventory : Inventory σ) : List AssetKind → InventoryM σ Unit
  | [] => return ()
  | kind :: rest => do
    discard (inventory.assetsOf kind)
    inventory.prefetch rest

end Inventory

/-- The primary kinds from which the assets of a kind are made. -/
def AssetKind.sources : AssetKind → List AssetKind
  | .schedulingPair => [.node, .pod]
  | .escalationDependency => [.clusterRoleBinding, .clusterRole, .roleBinding, .role, .node, .pod]
  | kind => [kind]

/-- The primary kinds that have to be fetched to serve the kinds, each once. -/
def requiredKinds (kinds : List AssetKind) : List AssetKind :=
  AssetKind.distinct (kinds.flatMap AssetKind.sources)

end ClusterAudit
