import ClusterAudit.Proofs.Reordering
import ClusterAudit.Proofs.Scan.Addition

/-!
# When scans complete

A scan of fixed contents whose reports nobody refuses completes exactly when all primary kinds behind
its detectors can be fetched, all their kinds can be computed, and every detector can judge the assets
to which it applies.
-/

namespace ClusterAudit.Scan

open Inventory Manifest SourceM Traversal

/-- What lets a configured scan of some contents complete. -/
structure Ready {σ : Type} (inventory : Inventory σ)
    (contents : AssetKind → Except Fault (List Value)) (config : AuditConfig) : Prop where
  fetched : ∀ source ∈ requiredKinds (Detector.assetKinds config.detectors),
    (inventory.stock contents source).isOk = true
  computed : ∀ kind ∈ Detector.assetKinds config.detectors,
    (inventory.table contents kind).isOk = true
  judged : Judged config.detectors (scope config (inventory.readOffStock contents))

section

variable {config : AuditConfig} {stored : AssetKind → List Asset}

theorem conclude_isOk_iff (hkinds : ∀ kind ∈ Detector.assetKinds config.detectors,
    ∀ asset ∈ stored kind, asset.kind = kind) :
    (conclude config (fun _ ↦ none) stored).1.isOk = true ↔
      Judged config.detectors (scope config stored) := by
  have hboth (groupByAsset : Bool) :
      (conclude { config with groupByAsset } (fun _ ↦ none) stored).1.isOk = true ↔
        Judged config.detectors (scope config stored) := by
    by_cases hjudged : Judged config.detectors (scope config stored)
    · simp only [hjudged, iff_true]
      cases groupByAsset with
      | false =>
        rw [conclude_byDetector hkinds hjudged]
        rfl
      | true =>
        rw [conclude_byAsset hjudged]
        rfl
    · simp only [hjudged, iff_false]
      cases groupByAsset with
      | false =>
        obtain ⟨fault, hfault⟩ := conclude_byDetector_error hkinds hjudged
        rw [hfault]
        exact Bool.false_ne_true
      | true =>
        obtain ⟨fault, hfault⟩ := conclude_byAsset_error hjudged
        rw [hfault]
        exact Bool.false_ne_true
  exact hboth config.groupByAsset

end

section

variable {σ : Type} {inventory : Inventory σ} {list : AssetKind → SourceM σ (List Value)}
  {defaultNames : AssetKind → List String} {start : σ}
  {contents : AssetKind → Except Fault (List Value)} {s : InventoryState σ}

theorem provided_isOk_iff {detectors : List Detector} :
    (provided inventory contents detectors).isOk = true ↔
      (∀ source ∈ requiredKinds (Detector.assetKinds detectors),
        (inventory.stock contents source).isOk = true) ∧
      ∀ kind ∈ Detector.assetKinds detectors, (inventory.table contents kind).isOk = true := by
  have hstock : ((requiredKinds (Detector.assetKinds detectors)).mapM
      (inventory.table contents)).isOk = true ↔
        ∀ source ∈ requiredKinds (Detector.assetKinds detectors),
          (inventory.stock contents source).isOk = true := by
    rw [mapM_isOk_iff]
    apply forall₂_congr
    intro source hsource
    rw [table_of_primary (requiredKinds_primary hsource)]
  rw [← hstock, ← mapM_isOk_iff, provided, isOk_bind_const, isOk_bind_pure, Bool.and_eq_true]

theorem run_isOk_iff (hsource : inventory.source = .ofManifests list defaultNames)
    (hfixed : Fixed list start contents) (h : inventory.Faithful list start contents s)
    {config : AuditConfig} :
    ((run config inventory fun _ ↦ none).run s).1.isOk = true ↔ Ready inventory contents config := by
  have hconclude : (∀ kind ∈ Detector.assetKinds config.detectors,
      (inventory.table contents kind).isOk = true) →
      conclude config (fun _ ↦ none) (fun kind ↦ (inventory.table contents kind).toOption.getD []) =
        conclude config (fun _ ↦ none) (inventory.readOffStock contents) := by
    intro hcomputed
    apply conclude_congr
    intro kind hkind
    obtain ⟨assets, hassets⟩ := exists_of_isOk (hcomputed kind hkind)
    rw [hassets, eq_readOffStock_of_table hassets]
    rfl
  have hjudged (hcomputed : ∀ kind ∈ Detector.assetKinds config.detectors,
      (inventory.table contents kind).isOk = true) :
      (conclude config (fun _ ↦ none) (inventory.readOffStock contents)).1.isOk = true ↔
        Judged config.detectors (scope config (inventory.readOffStock contents)) := by
    apply conclude_isOk_iff
    intro kind hkind asset hasset
    obtain ⟨assets, hassets⟩ := exists_of_isOk (hcomputed kind hkind)
    rw [← eq_readOffStock_of_table hassets] at hasset
    exact table_kind hassets asset hasset
  rw [run_result hsource hfixed h]
  constructor
  · intro hrun
    obtain ⟨outcome, houtcome⟩ := exists_of_isOk hrun
    obtain ⟨_, hprovided, hfinal⟩ := bind_eq_ok houtcome
    obtain ⟨hfetched, hcomputed⟩ := provided_isOk_iff.1 (congrArg Except.isOk hprovided)
    rw [hconclude hcomputed] at hfinal
    exact ⟨hfetched, hcomputed, (hjudged hcomputed).1 (congrArg Except.isOk hfinal)⟩
  · intro hready
    obtain ⟨_, hprovided⟩ := exists_of_isOk (provided_isOk_iff.2 ⟨hready.fetched, hready.computed⟩)
    rw [hprovided, hconclude hready.computed]
    exact (hjudged hready.computed).2 hready.judged

end

/-- A scan of documents completes when they can be filed and what is filed lets it complete. -/
theorem scanDocuments_isOk_iff {docs : List Value} {defaultNames : AssetKind → List String}
    {includeDefaults : Bool} {config : AuditConfig} :
    (scanDocuments docs defaultNames includeDefaults config fun _ ↦ none).isOk = true ↔
      (Filing.fileAll "" docs).fault = none ∧
        Ready ⟨Snapshot.source defaultNames, includeDefaults⟩
          (Snapshot.answer { manifests := (Filing.fileAll "" docs).filed }) config := by
  have hfixed := Snapshot.list_fixed { manifests := (Filing.fileAll "" docs).filed }
  have hrun : ((run config ⟨Snapshot.source defaultNames, includeDefaults⟩ fun _ ↦ none).run
      { source := { manifests := (Filing.fileAll "" docs).filed } }).1.isOk = true ↔
        Ready ⟨Snapshot.source defaultNames, includeDefaults⟩
          (Snapshot.answer { manifests := (Filing.fileAll "" docs).filed }) config :=
    run_isOk_iff rfl hfixed ((Reached.fresh .start).faithful hfixed)
  rw [scanDocuments_eq, isOk_bind_const, Bool.and_eq_true, hrun, Filing.result_isOk_iff]

end ClusterAudit.Scan
