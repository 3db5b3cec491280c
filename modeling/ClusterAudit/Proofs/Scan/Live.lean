import ClusterAudit.Proofs.Scan.Completed
import ClusterAudit.Proofs.Source.Unpacking

/-!
# Scans of a cluster and of its documents

A scan does not look at where manifests come from.  A cluster is asked kind by kind and gives objects
that need not name their kinds, while documents are put under the kinds that they name; when both
hold the same manifests of each primary kind, in the same order, scans of the cluster and of the
documents end alike.
-/

namespace ClusterAudit

open Inventory Manifest SourceM Traversal

/-! ## Inventories that read the same assets -/

section

variable {σ τ : Type} {inventory : Inventory σ} {other : Inventory τ}
  {contents others : AssetKind → Except Fault (List Value)}

/-- Two inventories with the same default objects that read the same assets of all primary kinds. -/
structure Inventory.ReadAlike (inventory : Inventory σ) (other : Inventory τ)
    (contents others : AssetKind → Except Fault (List Value)) : Prop where
  defaultNames_eq : inventory.source.defaultNames = other.source.defaultNames
  includeDefaults_eq : inventory.includeDefaults = other.includeDefaults
  assets_eq : ∀ kind, kind.isDerived = false →
    (contents kind >>= fun docs ↦ docs.mapM (Asset.ofManifest kind)) =
      (others kind >>= fun docs ↦ docs.mapM (Asset.ofManifest kind))

namespace Inventory.ReadAlike

variable (h : inventory.ReadAlike other contents others)

include h

theorem stock_eq {kind : AssetKind} (hprimary : kind.isDerived = false) :
    inventory.stock contents kind = other.stock others kind := by
  have hwanted : inventory.wanted kind = other.wanted kind := by
    funext assets
    rw [wanted, wanted, h.includeDefaults_eq, h.defaultNames_eq]
  have hassets := h.assets_eq kind hprimary
  unfold stock
  rw [← bind_assoc, ← bind_assoc, hassets, hwanted]

theorem table_eq (kind : AssetKind) : inventory.table contents kind = other.table others kind := by
  cases hderived : kind.isDerived with
  | false => rw [table_of_primary hderived, table_of_primary hderived, h.stock_eq hderived]
  | true =>
    have hstock : ∀ source ∈ kind.sources, (inventory.stock contents source).toOption.getD [] =
        (other.stock others source).toOption.getD [] := by
      intro source hsource
      rw [h.stock_eq (AssetKind.sources_primary hsource)]
    have hderive (stored : AssetKind → List Asset) :
        inventory.derive stored kind = other.derive stored kind := by
      unfold derive
      rw [h.defaultNames_eq, h.includeDefaults_eq]
    calc inventory.table contents kind
        = inventory.derive (fun source ↦ (inventory.stock contents source).toOption.getD []) kind :=
          table_of_derived hderived
      _ = inventory.derive (fun source ↦ (other.stock others source).toOption.getD []) kind :=
          derive_congr inventory hstock
      _ = other.derive (fun source ↦ (other.stock others source).toOption.getD []) kind := hderive _
      _ = other.table others kind := (table_of_derived hderived).symm

end Inventory.ReadAlike

/-- Scans over fixed contents with the same assets end alike, whatever was asked for before. -/
theorem Inventory.ReadAlike.run_eq (h : inventory.ReadAlike other contents others)
    {list : AssetKind → SourceM σ (List Value)} {otherList : AssetKind → SourceM τ (List Value)}
    {defaultNames : AssetKind → List String} {start : σ} {otherStart : τ}
    (hsource : inventory.source = .ofManifests list defaultNames)
    (hother : other.source = .ofManifests otherList defaultNames)
    (hfixed : Fixed list start contents) (hotherFixed : Fixed otherList otherStart others)
    {s : InventoryState σ} {t : InventoryState τ} (hs : inventory.Faithful list start contents s)
    (ht : other.Faithful otherList otherStart others t) (config : AuditConfig)
    (audience : Scan.Audience) :
    ((Scan.run config inventory audience).run s).1 = ((Scan.run config other audience).run t).1 := by
  have htable : inventory.table contents = other.table others := funext h.table_eq
  rw [Scan.run_result hsource hfixed hs, Scan.run_result hother hotherFixed ht, Scan.provided,
    Scan.provided, htable]

end

/-! ## Clusters and documents with the same manifests -/

/-- A cluster replies with the given manifests of the primary kinds; one that does not know pod
security policies has none of them. -/
def Cluster.Serves (cluster : Cluster) (contents : AssetKind → List Value) : Prop :=
  ∀ kind, kind.isDerived = false →
    cluster.replyFor kind = .objects (contents kind) ∨
    kind = .podSecurityPolicy ∧ contents kind = [] ∧ ∃ status reason,
      cluster.replyFor kind = .refused status reason ∧ status.same (.int 404) = true

/-- Documents hold the given manifests of the primary kinds, in the order of each kind, whatever else
they hold in between. -/
def Filing.Captures (docs : List Value) (contents : AssetKind → List Value) : Prop :=
  ∃ held, Holds "" docs held ∧ ∀ kind, kind.isDerived = false →
    List.Forall₂ Value.AlikeButKind (contents kind)
      ((held.filter fun manifest ↦ manifest.1 = kind.name).map (·.2))

/-- Pod security policies get their kind, which changes nothing but their kind. -/
theorem Cluster.mapM_asPolicy {items docs : List Value}
    (h : List.Forall₂ Value.AlikeButKind items docs) :
    ∃ policies, items.mapM asPolicy = .ok policies ∧
      List.Forall₂ Value.AlikeButKind policies docs := by
  induction h with
  | nil => exact ⟨[], rfl, .nil⟩
  | cons hfirst _ ih =>
    obtain ⟨policies, hpolicies, halike⟩ := ih
    obtain ⟨entries, fields, rfl, rfl, hfields⟩ := hfirst
    have hpolicy := Value.AlikeButKind.of_putEntry entries (.text AssetKind.podSecurityPolicy.name)
    refine ⟨_, ?_, .cons (hpolicy.symm.trans ⟨entries, fields, rfl, rfl, hfields⟩) halike⟩
    rw [List.mapM_cons, hpolicies]
    rfl

/-- What a cluster replies for a kind is read as the manifests that it serves. -/
theorem Cluster.Serves.read_eq {cluster : Cluster} {contents : AssetKind → List Value}
    (h : cluster.Serves contents) {kind : AssetKind} (hprimary : kind.isDerived = false)
    {docs : List Value} (hdocs : List.Forall₂ Value.AlikeButKind (contents kind) docs) :
    (answer kind (cluster.replyFor kind) >>= fun items ↦ items.mapM (Asset.ofManifest kind)) =
      docs.mapM (Asset.ofManifest kind) := by
  rcases h kind hprimary with hreply | ⟨rfl, hnone, status, reason, hreply, hstatus⟩
  · rw [hreply, answer]
    split
    · obtain ⟨policies, hpolicies, halike⟩ := mapM_asPolicy hdocs
      rw [hpolicies, ← Value.AlikeButKind.mapM_ofManifest_eq halike kind]
      rfl
    · exact Value.AlikeButKind.mapM_ofManifest_eq hdocs kind
  · rw [hnone] at hdocs
    cases hdocs
    rw [hreply, answer, hstatus]
    rfl

/-- When documents hold the manifests that a cluster serves, they can be put into a snapshot, and
scans of the cluster and of the snapshot end alike: both fail with the same fault, or both have the
same outcome. -/
theorem Scan.run_cluster_eq_run_snapshot (cluster : Cluster) (contents : AssetKind → List Value)
    (docs : List Value) (hadmits : cluster.Admits) (hserves : cluster.Serves contents)
    (hcaptures : Filing.Captures docs contents) :
    ∃ snapshot, (Snapshot.addAll docs).run {} = (.ok (), snapshot) ∧
      ∀ (config : AuditConfig) (defaultNames : AssetKind → List String) (includeDefaults : Bool)
        (audience : Audience) (s : InventoryState Cluster) (t : InventoryState Snapshot),
      Reached ⟨Cluster.source defaultNames, includeDefaults⟩ Cluster.list cluster s →
      Reached ⟨Snapshot.source defaultNames, includeDefaults⟩ Snapshot.list snapshot t →
      ((run config ⟨Cluster.source defaultNames, includeDefaults⟩ audience).run s).1 =
        ((run config ⟨Snapshot.source defaultNames, includeDefaults⟩ audience).run t).1 := by
  obtain ⟨held, hheld, hsame⟩ := hcaptures
  have hfaultless : (Filing.fileAll "" docs).result = .ok () := by
    rw [Filing.fileAll_of_holds hheld]
    rfl
  refine ⟨{ manifests := (Filing.fileAll "" docs).filed }, ?_, ?_⟩
  · rw [Snapshot.addAll_run, hfaultless]
    rfl
  · intro config defaultNames includeDefaults audience s t hs ht
    have hlive := Cluster.list_fixed hadmits
    have hrecorded := Snapshot.list_fixed { manifests := (Filing.fileAll "" docs).filed }
    have halike : ReadAlike ⟨Cluster.source defaultNames, includeDefaults⟩
        ⟨Snapshot.source defaultNames, includeDefaults⟩
        (fun kind ↦ Cluster.answer kind (cluster.replyFor kind))
        (Snapshot.answer { manifests := (Filing.fileAll "" docs).filed }) := by
      refine ⟨rfl, rfl, ?_⟩
      intro kind hprimary
      have hlisted := Snapshot.manifestsOf_of_holds hheld hprimary
      have hread := hserves.read_eq hprimary (hsame kind hprimary)
      rw [← hlisted] at hread
      exact hread
    exact halike.run_eq rfl rfl hlive hrecorded (hs.faithful hlive) (ht.faithful hrecorded) config
      audience

namespace Cluster

def objects (cluster : Cluster) (kind : AssetKind) : List Value :=
  match cluster.replyFor kind with
  | .objects items => items
  | _ => []

/-- A cluster that is reached from inside only and does not know pod security policies.  Its objects
do not name their kinds. -/
def delegating : Cluster where
  userFault := some "no configuration"
  replies := [
    (.node, .objects [named "n1" "" []]),
    (.pod, .objects [named "worker" "ci" onNode]),
    (.clusterRole, .objects [named "auditor" "" readsSecrets, named "auditor" "" []]),
    (.clusterRoleBinding, .objects [named "binding" "" (grants "ClusterRole" "auditor")]),
    (.podSecurityPolicy, .refused (.int 404) (.text "Not Found"))]

theorem delegating_serves : delegating.Serves delegating.objects := by
  intro kind _
  cases kind with
  | podSecurityPolicy => exact .inr ⟨rfl, rfl, _, _, rfl, by decide⟩
  | _ => exact .inl rfl

end Cluster

namespace Filing

/-- The objects of the cluster, the roles in a list, with documents of an unknown and of a derived
kind in between. -/
def delegating : List Value := [
  named "binding" "" (grants "ClusterRole" "auditor" ++ [(.text "kind", .text "ClusterRoleBinding")]),
  named "web" "ci" [(.text "kind", .text "Deployment")],
  named "worker" "ci" (onNode ++ [(.text "kind", .text "Pod")]),
  .map [(.text "kind", .text "ClusterRoleList"),
    (.text "items", .list [named "auditor" "" readsSecrets, named "auditor" "" []])],
  named "pair" "" [(.text "kind", .text "SchedulingPair")],
  named "n1" "" [(.text "kind", .text "Node")]]

theorem delegating_captures : Captures delegating Cluster.delegating.objects := by
  have hlist : itemKind? "ClusterRoleList" true = some "ClusterRole" := by decide +kernel
  refine ⟨_, .manifest rfl (by decide +kernel) <| .manifest rfl (by decide +kernel) <|
    .manifest rfl (by decide +kernel) <| .list rfl hlist rfl
      (.manifest rfl (by decide +kernel) <| .manifest rfl (by decide +kernel) .nil) <|
    .manifest rfl (by decide +kernel) <| .manifest rfl (by decide +kernel) .nil, ?_⟩
  intro kind hprimary
  cases kind with
  | schedulingPair | escalationDependency => cases hprimary
  | node | pod | clusterRoleBinding => exact .cons (.of_append _ _) .nil
  | clusterRole => exact .cons (.of_append _ _) (.cons (.of_append _ _) .nil)
  | _ => exact .nil

end Filing

/-- A role and a path through it are found in the cluster as in the documents. -/
theorem Scan.run_delegating_eq_run_snapshot :
    let config : AuditConfig := { rbac := some [2, 6], isolation := some [], podSecurity := some [] }
    let live : Inventory Cluster := ⟨Cluster.source fun _ ↦ [], false⟩
    let recorded : Inventory Snapshot := ⟨Snapshot.source fun _ ↦ [], false⟩
    let scan := (run config live fun _ ↦ none).run { source := Cluster.delegating }
    ∃ snapshot, (Snapshot.addAll Filing.delegating).run {} = (.ok (), snapshot) ∧
      scan.1 = ((run config recorded fun _ ↦ none).run { source := snapshot }).1 ∧
      scan.1.toOption.map (·.result) = some ⟨2, 0⟩ := by
  intro config live recorded scan
  have hadmits : Cluster.delegating.Admits := by decide
  obtain ⟨snapshot, hadded, hagree⟩ := run_cluster_eq_run_snapshot Cluster.delegating _
    Filing.delegating hadmits Cluster.delegating_serves Filing.delegating_captures
  have hfixed := Cluster.list_fixed hadmits
  have hfresh : Reached live Cluster.list Cluster.delegating { source := Cluster.delegating } :=
    .fresh .start
  have hscan : scan.1 = (conclude config (fun _ ↦ none) (live.readOffStock fun kind ↦
      Cluster.answer kind (Cluster.delegating.replyFor kind))).1 :=
    run_result_of_resolvable rfl hfixed (hfresh.faithful hfixed)
      (by decide +kernel) (by decide +kernel)
  refine ⟨snapshot, hadded, hagree config _ false _ _ _ hfresh (.fresh .start), ?_⟩
  rw [hscan]
  decide +kernel

end ClusterAudit
