import ClusterAudit.Proofs.Detector.Judging
import ClusterAudit.Proofs.Inventory.Order
import ClusterAudit.Proofs.Inventory.Serving
import ClusterAudit.Proofs.Scan.Completion
import ClusterAudit.Proofs.Source.Shaped

/-!
# Scans of documents with missing fields

Fields may be missing from documents anywhere.  As long as the fields that are there have the types of
the interface, the documents can be filed, every kind can be fetched and derived, every detector can
judge every asset, and every scan completes.
-/

namespace ClusterAudit

open Inventory Manifest Traversal

variable {σ : Type} {inventory : Inventory σ} {contents : AssetKind → Except Fault (List Value)}

/-! ## Stock of usable assets -/

namespace Inventory

/-- Contents that list objects with the fields of their kinds. -/
def Fielded (contents : AssetKind → Except Fault (List Value)) : Prop :=
  ∀ kind : AssetKind, kind.isDerived = false →
    ∃ docs, contents kind = .ok docs ∧ ∀ doc ∈ docs, Shape.record kind.fields doc = true

theorem wanted_yields (inventory : Inventory σ) (kind : AssetKind) {assets : List Asset}
    (h : ∀ asset ∈ assets, asset.Usable) :
    Yields (fun wanted ↦ ∀ asset ∈ wanted, asset.Usable) (inventory.wanted kind assets) :=
  ⟨_, inventory.wanted_eq_kept (fun asset hasset ↦ Asset.Usable.hasName (h asset hasset)) kind,
    fun asset hasset ↦ h asset (inventory.mem_of_mem_kept hasset)⟩

theorem Fielded.stock_yields (h : Fielded contents) (inventory : Inventory σ) {kind : AssetKind}
    (hprimary : kind.isDerived = false) :
    Yields (fun assets ↦ ∀ asset ∈ assets, asset.Usable) (inventory.stock contents kind) := by
  obtain ⟨docs, hdocs, hfields⟩ := h kind hprimary
  unfold stock
  rw [hdocs]
  have hread : Yields (fun assets ↦ ∀ asset ∈ assets, asset.Usable)
      (docs.mapM (Asset.ofManifest kind)) :=
    .mapM fun doc hdoc ↦ Asset.ofManifest_yields hprimary (hfields doc hdoc)
  exact hread.bind fun assets hassets ↦ inventory.wanted_yields kind hassets

theorem Fielded.usable_stocked (h : Fielded contents) (inventory : Inventory σ) {kind : AssetKind}
    (hprimary : kind.isDerived = false) : ∀ asset ∈ inventory.stocked contents kind, asset.Usable := by
  obtain ⟨assets, hassets, husable⟩ := h.stock_yields inventory hprimary
  rw [stocked, hassets]
  exact husable

/-- What is taken out of the assets in stock is usable as well. -/
theorem Fielded.usable_of_mem (h : Fielded contents) (inventory : Inventory σ) {kind : AssetKind}
    (hprimary : kind.isDerived = false) {α : Type} {read : Asset → Option α} {wrap : α → Asset}
    (hread : ∀ {asset : Asset} {a : α}, read asset = some a → asset = wrap a) :
    ∀ a ∈ (inventory.stocked contents kind).filterMap read, (wrap a).Usable := by
  intro a ha
  obtain ⟨asset, hasset, hfound⟩ := List.mem_filterMap.1 ha
  rw [← hread hfound]
  exact h.usable_stocked inventory hprimary asset hasset

theorem Fielded.usable_node (h : Fielded contents) (inventory : Inventory σ) :
    ∀ node ∈ (inventory.stocked contents .node).filterMap Asset.asNode?, node.Usable :=
  h.usable_of_mem inventory rfl Asset.eq_node_of_asNode?

theorem Fielded.usable_pod (h : Fielded contents) (inventory : Inventory σ) :
    ∀ pod ∈ (inventory.stocked contents .pod).filterMap Asset.asPod?, pod.Usable :=
  h.usable_of_mem inventory rfl Asset.eq_pod_of_asPod?

theorem Fielded.legible (h : Fielded contents) (inventory : Inventory σ)
    {bindingKind roleKind : AssetKind} (hbindingKind : bindingKind.isDerived = false)
    (hroleKind : roleKind.isDerived = false) :
    Escalation.Legible ((inventory.stocked contents bindingKind).filterMap Asset.asBinding?)
      ((inventory.stocked contents roleKind).filterMap Asset.asRole?)
      ((inventory.stocked contents .pod).filterMap Asset.asPod?) := by
  have hbinding : ∀ binding ∈ (inventory.stocked contents bindingKind).filterMap Asset.asBinding?,
      binding.Usable := h.usable_of_mem inventory hbindingKind Asset.eq_binding_of_asBinding?
  have hrole : ∀ role ∈ (inventory.stocked contents roleKind).filterMap Asset.asRole?, role.Usable :=
    h.usable_of_mem inventory hroleKind Asset.eq_role_of_asRole?
  refine Escalation.Legible.of_names ?_ ?_ ?_ ?_
  · exact fun binding hmem ↦
      have husable := hbinding binding hmem
      ⟨fun _ ↦ husable.ns, husable.name, husable.roleName⟩
  · exact fun binding hmem subject hsubject ↦
      have husable := (hbinding binding hmem).subjects subject hsubject
      ⟨husable.ns, husable.name⟩
  · exact fun _ _ role hmem ↦ ⟨fun _ ↦ (hrole role hmem).ns, (hrole role hmem).name⟩
  · exact fun pod hpod ↦
      have husable := h.usable_pod inventory pod hpod
      ⟨husable.ns, husable.account⟩

theorem Fielded.serviceable (h : Fielded contents) (inventory : Inventory σ) :
    inventory.Serviceable contents where
  stock source hsource := (h.stock_yields inventory ((AssetKind.mem_primary_iff source).1 hsource)).isOk
  resolvable := {
    nodes := fun node hnode ↦ (h.usable_node inventory node hnode).name.asKey_isOk
    pods := fun pod hpod ↦ (h.usable_pod inventory pod hpod).nodeName.asKey_isOk
    clusterWide := h.legible inventory rfl rfl
    namespaced := h.legible inventory rfl rfl }

/-- Derived assets are made of usable parts. -/
theorem Fielded.usable_readOffStock (h : Fielded contents) (inventory : Inventory σ)
    (kind : AssetKind) : ∀ asset ∈ inventory.readOffStock contents kind, asset.Usable := by
  intro asset hasset
  cases hderived : kind.isDerived with
  | false =>
    rw [readOffStock, readOff_of_primary hderived] at hasset
    exact h.usable_stocked inventory hderived asset hasset
  | true =>
    cases kind with
    | schedulingPair =>
      obtain ⟨node, hnode, hpair⟩ := List.mem_flatMap.1 hasset
      obtain ⟨pod, hpod, rfl⟩ := List.mem_map.1 hpair
      refine ⟨?_, ?_⟩
      · rintro _ ⟨⟩
        exact h.usable_node inventory node hnode
      · rintro _ ⟨⟩
        exact h.usable_pod inventory pod hpod
    | escalationDependency =>
      obtain ⟨dependency, hdependency, rfl⟩ := List.mem_map.1 hasset
      obtain ⟨hnode, hpod⟩ := mem_of_mem_allPaths hdependency
      exact ⟨h.usable_node inventory _ hnode, h.usable_pod inventory _ hpod⟩
    | _ => cases hderived

end Inventory

namespace Scan

theorem judged_of_usable {detectors : List Detector} {assets : List Asset}
    (hdetectors : ∀ detector ∈ detectors, detector ∈ Detector.all)
    (hassets : ∀ asset ∈ assets, asset.Usable) : Judged detectors assets := by
  intro detector hdetector asset hasset _
  obtain ⟨details, hdetails⟩ := exists_of_isOk
    (Detector.evaluate_isOk (hdetectors detector hdetector) (hassets asset hasset))
  rw [findingOf, hdetails]
  exact ⟨_, rfl⟩

theorem ready_of_fielded (h : Fielded contents) (inventory : Inventory σ) (config : AuditConfig) :
    Ready inventory contents config where
  fetched source hsource := (h.stock_yields inventory (requiredKinds_primary hsource)).isOk
  computed kind _ := by
    rw [(h.serviceable inventory).table_eq]
    rfl
  judged := by
    apply judged_of_usable fun detector hdetector ↦ config.detectors_sublist.subset hdetector
    intro asset hasset
    obtain ⟨kind, -, hkind⟩ := List.mem_flatMap.1 hasset
    exact h.usable_readOffStock inventory kind asset hkind

/-- Whatever is missing from documents whose fields have the types of the interface, they can be
filed; whatever was asked for or scanned before, every kind can be fetched or derived, every detector can
judge every asset, and a scan completes under every configuration. -/
theorem complete_of_docsShaped (docs : List Value) (h : Filing.docsShaped "" docs = true)
    (defaultNames : AssetKind → List String) (includeDefaults : Bool) :
    let inventory : Inventory Snapshot := ⟨Snapshot.source defaultNames, includeDefaults⟩
    ∃ snapshot, (Snapshot.addAll docs).run {} = (.ok (), snapshot) ∧
      (∀ state, Listed Snapshot.list snapshot state → ∀ kind ∈ AssetKind.primary,
        ((inventory.source.fetch kind).run state).1.isOk = true) ∧
      ∀ s, Reached inventory Snapshot.list snapshot s →
        (∀ kinds, ∃ assets, ((inventory.getAssets kinds).run s).1 = .ok assets ∧
          ∀ detector ∈ Detector.all, ∀ asset ∈ assets,
            (detector.evaluate (some asset)).isOk = true) ∧
        ∀ config : AuditConfig, ((run config inventory fun _ ↦ none).run s).1.isOk = true := by
  intro inventory
  obtain ⟨hfault, hmanifests⟩ := Snapshot.manifestsOf_of_docsShaped h
  let snapshot : Snapshot := { manifests := (Filing.fileAll "" docs).filed }
  have hfixed : Fixed Snapshot.list snapshot snapshot.answer := snapshot.list_fixed
  have hfielded : Fielded snapshot.answer :=
    fun kind hprimary ↦ ⟨snapshot.manifestsOf kind, rfl, hmanifests kind hprimary⟩
  refine ⟨snapshot, ?_, ?_, ?_⟩
  · rw [Snapshot.addAll_run, Filing.result, hfault]
    rfl
  · intro state hstate kind hkind
    have hprimary : kind.isDerived = false := (AssetKind.mem_primary_iff kind).1 hkind
    change (((AssetSource.ofManifests Snapshot.list defaultNames).fetch kind).run state).1.isOk = true
    rw [AssetSource.ofManifests_fetch_run Snapshot.list defaultNames hprimary, hfixed state hstate]
    exact mapM_isOk_iff.2 fun doc hdoc ↦
      (Asset.ofManifest_yields hprimary (hmanifests kind hprimary doc hdoc)).isOk
  · intro s hs
    have hfaithful : inventory.Faithful Snapshot.list snapshot snapshot.answer s := hs.faithful hfixed
    refine ⟨fun kinds ↦ ?_, fun config ↦ ?_⟩
    · refine ⟨_, hfaithful.getAssets_run_ok rfl hfixed (hfielded.serviceable inventory) kinds, ?_⟩
      intro detector hdetector asset hasset
      obtain ⟨kind, -, hkind⟩ := List.mem_flatMap.1 hasset
      exact Detector.evaluate_isOk hdetector (hfielded.usable_readOffStock inventory kind asset hkind)
    · exact (run_isOk_iff rfl hfixed hfaithful).2 (ready_of_fielded hfielded inventory config)

/-- Documents with hardly any fields: a list of nodes of which one has a label and a taint without a key,
a pod with terms and a toleration that say almost nothing, bindings, and a policy without a rule. -/
def sparse : List Value := [
  .map [],
  .map [(.text "kind", .text "NodeList"), (.text "items", .list [
    .map [],
    .map [(.text "metadata", .map [(.text "labels", .map [(.text "zone", .text "7")])]),
      (.text "spec", .map [(.text "taints", .list [.map []])])]])],
  .map [(.text "kind", .text "Pod"), (.text "spec", .map [
    (.text "affinity", .map [(.text "nodeAffinity", .map [
      (.text "requiredDuringSchedulingIgnoredDuringExecution", .map [
        (.text "nodeSelectorTerms", .list [.map [], .map [(.text "matchExpressions", .list [
          .map [(.text "operator", .text "Gt")],
          .map [(.text "key", .text "zone"), (.text "operator", .text "Gt"),
            (.text "values", .list [.text "5"])]])]])])])]),
    (.text "tolerations", .list [.map [(.text "key", .text "gpu")]]),
    (.text "containers", .list [.map []])])],
  .map [(.text "kind", .text "ClusterRoleBinding"),
    (.text "subjects", .list [.map [], .map [(.text "kind", .text "ServiceAccount")]])],
  .map [(.text "kind", .text "RoleBinding")],
  .map [(.text "kind", .text "PodSecurityPolicy"),
    (.text "spec", .map [(.text "runAsUser", .map [(.text "ranges", .list [.map []])])])]]

/-- All scans of them complete; with all detectors, the affinity refuses both nodes, the taint is not
tolerated, and the policy breaks two rules. -/
theorem complete_of_docsShaped_sparse :
    let inventory : Inventory Snapshot := ⟨Snapshot.source fun _ ↦ ["default"], false⟩
    Filing.docsShaped "" sparse = true ∧
    (∃ snapshot, (Snapshot.addAll sparse).run {} = (.ok (), snapshot) ∧
      ∀ config : AuditConfig,
        ((run config inventory fun _ ↦ none).run { source := snapshot }).1.isOk = true) ∧
    (scanDocuments sparse (fun _ ↦ ["default"]) false {} fun _ ↦ none).toOption.map (·.result) =
      some ⟨2, 3⟩ := by
  intro inventory
  have hshaped : Filing.docsShaped "" sparse = true := by decide +kernel
  refine ⟨hshaped, ?_, ?_⟩
  · obtain ⟨snapshot, hadded, -, hreached⟩ :=
      complete_of_docsShaped sparse hshaped (fun _ ↦ ["default"]) false
    obtain ⟨-, hruns⟩ := hreached _ (.fresh .start)
    exact ⟨snapshot, hadded, hruns⟩
  · rw [scanDocuments_of_resolvable (by decide +kernel) (by decide +kernel)
      (by decide +kernel)]
    decide +kernel

end Scan

end ClusterAudit
