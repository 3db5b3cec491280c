import ClusterAudit.Proofs.Escalation.Paths
import ClusterAudit.Proofs.Inventory.Table

/-!
# Derived assets read off the stock

Whenever the derived assets can be computed they are read off the stock of primary kinds: the pairs
node by node, and the dependencies looked up one by one, first through the cluster-wide bindings and
then through the others.  When the names of nodes are keys they can be computed.
-/

namespace ClusterAudit

/-! ## Parts of assets -/

namespace Asset

theorem eq_node_of_asNode? {asset : Asset} {node : Node} (h : asset.asNode? = some node) :
    asset = .node node := by
  cases asset with
  | node n =>
    cases h
    rfl
  | _ => cases h

theorem eq_pod_of_asPod? {asset : Asset} {pod : Pod} (h : asset.asPod? = some pod) :
    asset = .pod pod := by
  cases asset with
  | pod p =>
    cases h
    rfl
  | _ => cases h

theorem eq_role_of_asRole? {asset : Asset} {role : Role} (h : asset.asRole? = some role) :
    asset = .role role := by
  cases asset with
  | role r =>
    cases h
    rfl
  | _ => cases h

theorem eq_binding_of_asBinding? {asset : Asset} {binding : RoleBinding}
    (h : asset.asBinding? = some binding) : asset = .binding binding := by
  cases asset with
  | binding b =>
    cases h
    rfl
  | _ => cases h

end Asset

namespace Inventory

open Manifest Traversal

/-! ## Reading off -/

/-- The dependencies of the bindings of a kind with the roles of a kind. -/
def pathsBetween (stored : AssetKind → List Asset) (passedOver : List String) (wantAll : Bool)
    (bindingKind roleKind : AssetKind) : List EscalationDependency :=
  Escalation.paths ((stored bindingKind).filterMap Asset.asBinding?)
    ((stored roleKind).filterMap Asset.asRole?) ((stored .node).filterMap Asset.asNode?)
    ((stored .pod).filterMap Asset.asPod?) passedOver wantAll

/-- The dependencies of all bindings. -/
def allPaths (stored : AssetKind → List Asset) (passedOver : List String) (wantAll : Bool) :
    List EscalationDependency :=
  pathsBetween stored passedOver wantAll .clusterRoleBinding .clusterRole ++
    pathsBetween stored passedOver wantAll .roleBinding .role

theorem mem_of_mem_allPaths {stored : AssetKind → List Asset} {passedOver : List String}
    {wantAll : Bool} {dependency : EscalationDependency}
    (h : dependency ∈ allPaths stored passedOver wantAll) :
    dependency.node ∈ (stored .node).filterMap Asset.asNode? ∧
      dependency.pod ∈ (stored .pod).filterMap Asset.asPod? := by
  rcases List.mem_append.1 h with h | h
  · exact Escalation.mem_of_mem_paths h
  · exact Escalation.mem_of_mem_paths h

/-- The assets of a kind, given those of the primary kinds. -/
def readOff (stored : AssetKind → List Asset) (passedOver : List String) (wantAll : Bool) :
    AssetKind → List Asset
  | .schedulingPair =>
    pairs ((stored .node).filterMap Asset.asNode?) ((stored .pod).filterMap Asset.asPod?)
  | .escalationDependency => (allPaths stored passedOver wantAll).map .escalationDependency
  | kind => stored kind

theorem readOff_of_primary {stored : AssetKind → List Asset} {passedOver : List String}
    {wantAll : Bool} {kind : AssetKind} (hprimary : kind.isDerived = false) :
    readOff stored passedOver wantAll kind = stored kind := by
  cases kind with
  | schedulingPair => cases hprimary
  | escalationDependency => cases hprimary
  | _ => rfl

theorem readOff_congr {stored other : AssetKind → List Asset} {passedOver : List String}
    {wantAll : Bool} {kind : AssetKind} (h : ∀ source ∈ kind.sources, stored source = other source) :
    readOff stored passedOver wantAll kind = readOff other passedOver wantAll kind := by
  cases kind with
  | schedulingPair => rw [readOff, readOff, h .node (by decide), h .pod (by decide)]
  | escalationDependency =>
    unfold readOff allPaths pathsBetween
    rw [h .node (by decide), h .pod (by decide), h .clusterRoleBinding (by decide),
      h .clusterRole (by decide), h .roleBinding (by decide), h .role (by decide)]
  | _ => exact h _ List.mem_cons_self

/-! ## Computed assets -/

variable {σ : Type} {inventory : Inventory σ} {stored : AssetKind → List Asset} {kind : AssetKind}

theorem eq_readOff_of_derive {assets : List Asset} (h : inventory.derive stored kind = .ok assets) :
    assets = readOff stored (inventory.source.defaultNames .serviceAccount)
      inventory.includeDefaults kind := by
  cases kind with
  | escalationDependency =>
    obtain ⟨clusterWide, hclusterWide, h⟩ := bind_eq_ok h
    obtain ⟨namespaced, hnamespaced, h⟩ := bind_eq_ok h
    cases h
    rw [Escalation.eq_paths_of_resolve hclusterWide, Escalation.eq_paths_of_resolve hnamespaced]
    rfl
  | _ =>
    cases h
    rfl

/-- The names of the nodes and the names that pods give for their nodes are keys, and all identities
that are looked up can be written. -/
structure Resolvable (stored : AssetKind → List Asset) : Prop where
  nodes : ∀ node ∈ (stored .node).filterMap Asset.asNode?, node.name.asKey.isOk = true
  pods : ∀ pod ∈ (stored .pod).filterMap Asset.asPod?, pod.nodeName.asKey.isOk = true
  clusterWide : Escalation.Legible ((stored .clusterRoleBinding).filterMap Asset.asBinding?)
    ((stored .clusterRole).filterMap Asset.asRole?) ((stored .pod).filterMap Asset.asPod?)
  namespaced : Escalation.Legible ((stored .roleBinding).filterMap Asset.asBinding?)
    ((stored .role).filterMap Asset.asRole?) ((stored .pod).filterMap Asset.asPod?)

instance (stored : AssetKind → List Asset) : Decidable (Resolvable stored) :=
  decidable_of_iff
    ((∀ node ∈ (stored .node).filterMap Asset.asNode?, node.name.asKey.isOk = true) ∧
      (∀ pod ∈ (stored .pod).filterMap Asset.asPod?, pod.nodeName.asKey.isOk = true) ∧
      Escalation.Legible ((stored .clusterRoleBinding).filterMap Asset.asBinding?)
        ((stored .clusterRole).filterMap Asset.asRole?) ((stored .pod).filterMap Asset.asPod?) ∧
      Escalation.Legible ((stored .roleBinding).filterMap Asset.asBinding?)
        ((stored .role).filterMap Asset.asRole?) ((stored .pod).filterMap Asset.asPod?))
    ⟨fun h ↦ ⟨h.1, h.2.1, h.2.2.1, h.2.2.2⟩, fun h ↦ ⟨h.nodes, h.pods, h.clusterWide, h.namespaced⟩⟩

theorem derive_eq_readOff (inventory : Inventory σ) (h : Resolvable stored) (kind : AssetKind) :
    inventory.derive stored kind = .ok (readOff stored
      (inventory.source.defaultNames .serviceAccount) inventory.includeDefaults kind) := by
  cases kind with
  | escalationDependency =>
    rw [derive, Escalation.resolve_eq_paths _ h.nodes h.pods h.clusterWide,
      Escalation.resolve_eq_paths _ h.nodes h.pods h.namespaced]
    rfl
  | _ => rfl

/-! ## Stock -/

/-- The assets of a primary kind in stock, none when they are lacking. -/
def stocked (inventory : Inventory σ) (contents : AssetKind → Except Fault (List Value))
    (kind : AssetKind) : List Asset :=
  (inventory.stock contents kind).toOption.getD []

variable {contents : AssetKind → Except Fault (List Value)}

theorem stocked_kind {asset : Asset} (h : asset ∈ inventory.stocked contents kind) :
    asset.kind = kind := by
  unfold stocked at h
  cases hstock : inventory.stock contents kind with
  | error fault =>
    rw [hstock] at h
    cases h
  | ok assets =>
    rw [hstock] at h
    exact stock_kind hstock asset h

/-- The assets of any kind, read off the stock. -/
def readOffStock (inventory : Inventory σ) (contents : AssetKind → Except Fault (List Value)) :
    AssetKind → List Asset :=
  readOff (inventory.stocked contents) (inventory.source.defaultNames .serviceAccount)
    inventory.includeDefaults

/-- What stands in the table for a kind is read off the stock. -/
theorem eq_readOffStock_of_table {assets : List Asset} (h : inventory.table contents kind = .ok assets) :
    assets = inventory.readOffStock contents kind := by
  cases hderived : kind.isDerived with
  | true =>
    rw [table_of_derived hderived] at h
    exact eq_readOff_of_derive h
  | false =>
    rw [table_of_primary hderived] at h
    rw [readOffStock, readOff_of_primary hderived, stocked, h]
    rfl

/-- With all primary kinds in stock, and names that can be looked up, every kind stands in the table. -/
theorem table_eq_readOffStock (hresolvable : Resolvable (inventory.stocked contents))
    (hstock : ∀ source ∈ AssetKind.primary, (inventory.stock contents source).isOk = true)
    (kind : AssetKind) : inventory.table contents kind = .ok (inventory.readOffStock contents kind) := by
  cases hderived : kind.isDerived with
  | true =>
    rw [table_of_derived hderived]
    exact inventory.derive_eq_readOff hresolvable kind
  | false =>
    obtain ⟨assets, hassets⟩ := exists_of_isOk (hstock kind ((AssetKind.mem_primary_iff kind).2 hderived))
    rw [table_of_primary hderived, readOffStock, readOff_of_primary hderived, stocked, hassets]
    rfl

end Inventory

/-! ## Manifests along a path -/

namespace Manifest

/-- A manifest with a name, a namespace and further fields. -/
def named (name ns : String) (fields : List Entry) : Value :=
  .map ((.text "metadata", .map [(.text "name", .text name), (.text "namespace", .text ns)]) :: fields)

/-- A reference to a role of a kind, and the subject that gets it. -/
def grants (kind role : String) : List Entry :=
  [(.text "roleRef", .map [(.text "kind", .text kind), (.text "name", .text role)]),
    (.text "subjects", .list [.map [(.text "kind", .text "ServiceAccount"),
      (.text "name", .text "builder"), (.text "namespace", .text "ci")]])]

/-- Rules that let secrets be read. -/
def readsSecrets : List Entry :=
  [(.text "rules", .list [.map [(.text "apiGroups", .list [.text ""]),
    (.text "resources", .list [.text "secrets"]), (.text "verbs", .list [.text "get"])]])]

/-- The node and the account of a pod. -/
def onNode : List Entry :=
  [(.text "spec", .map [(.text "nodeName", .text "n1"), (.text "serviceAccountName", .text "builder")])]

end Manifest

end ClusterAudit
