import ClusterAudit.Proofs.Inventory.Order
import ClusterAudit.Proofs.Scan.Completion

/-!
# Documents in another order

A scan looks a role or a node up as the first one of a name.  When nodes, roles and cluster roles are
told apart by their names, nothing else depends on the order of the documents: a scan of the same
documents in another order completes as well, counts alike, and has the same findings of every
detector.
-/

namespace ClusterAudit

open Inventory Manifest Traversal

/-! ## What a scan looks at -/

/-- The assets of a kind that can be read from the manifests of a snapshot. -/
def Snapshot.readable (snapshot : Snapshot) (kind : AssetKind) : List Asset :=
  (snapshot.manifestsOf kind).filterMap fun doc ↦ (Asset.ofManifest kind doc).toOption

theorem Snapshot.answer_rearranged {filed moved : List (AssetKind × Value)} (hperm : filed.Perm moved) :
    Rearranged (Snapshot.answer { manifests := filed }) (Snapshot.answer { manifests := moved }) :=
  fun kind ↦ ⟨Snapshot.manifestsOf { manifests := filed } kind,
    Snapshot.manifestsOf { manifests := moved } kind, rfl, rfl, (hperm.filter _).map _⟩

theorem Snapshot.readable_perm {filed moved : List (AssetKind × Value)} (hperm : filed.Perm moved)
    (kind : AssetKind) :
    (readable { manifests := filed } kind).Perm (readable { manifests := moved } kind) :=
  ((hperm.filter _).map _).filterMap _

def AssetKind.lookedUp : List AssetKind := [.node, .role, .clusterRole]

section

variable {σ : Type} {inventory : Inventory σ} {contents others : AssetKind → Except Fault (List Value)}

theorem Inventory.stocked_sublist_readable {kind : AssetKind} {docs : List Value}
    (hdocs : contents kind = .ok docs) :
    (inventory.stocked contents kind).Sublist
      (docs.filterMap fun doc ↦ (Asset.ofManifest kind doc).toOption) := by
  unfold stocked
  cases hstock : inventory.stock contents kind with
  | error fault => exact List.nil_sublist _
  | ok assets =>
    unfold stock at hstock
    rw [hdocs] at hstock
    obtain ⟨read, hread, hwanted⟩ := bind_eq_ok (x := docs.mapM (Asset.ofManifest kind)) hstock
    have hkept : (inventory.kept kind read).Sublist read := by
      unfold kept
      split
      · exact List.Sublist.refl read
      · exact List.filter_sublist
    rw [← eq_filterMap_of_mapM hread]
    exact inventory.eq_kept_of_wanted hwanted ▸ hkept

namespace Scan

theorem scope_perm {stored moved : AssetKind → List Asset} (config : AuditConfig)
    (hperm : ∀ kind, (stored kind).Perm (moved kind)) :
    (scope config stored).Perm (scope config moved) :=
  List.Perm.flatMap_left _ fun kind _ ↦ hperm kind

theorem Judged.perm {detectors : List Detector} {assets moved : List Asset}
    (h : Judged detectors assets) (hperm : assets.Perm moved) : Judged detectors moved :=
  fun detector hdetector asset hasset ↦ h detector hdetector asset (hperm.mem_iff.2 hasset)

variable (hrearranged : Rearranged contents others)
  (hnames : ∀ kind ∈ AssetKind.lookedUp, Asset.ToldApart (inventory.stocked contents kind))

include hrearranged hnames

theorem table_isOk_of_rearranged {kind : AssetKind} (h : (inventory.table contents kind).isOk = true) :
    (inventory.table others kind).isOk = true := by
  cases hderived : kind.isDerived with
  | true =>
    rw [table_of_derived hderived] at h ⊢
    exact derive_isOk_of_perm hrearranged.stocked_perm
      (fun roleKind hrole ↦ hnames roleKind (List.mem_cons_of_mem _ hrole)) h
  | false =>
    rw [table_of_primary hderived] at h ⊢
    obtain ⟨assets, hassets⟩ := exists_of_isOk h
    obtain ⟨moved, hmoved, -⟩ := hrearranged.stock_perm hassets
    rw [hmoved]
    rfl

theorem readOffStock_perm (kind : AssetKind) :
    (inventory.readOffStock contents kind).Perm (inventory.readOffStock others kind) :=
  readOff_perm hrearranged.stocked_perm hnames _ _ kind

theorem Ready.rearranged {config : AuditConfig} (h : Ready inventory contents config) :
    Ready inventory others config where
  fetched source hsource := by
    obtain ⟨assets, hassets⟩ := exists_of_isOk (h.fetched source hsource)
    obtain ⟨moved, hmoved, -⟩ := hrearranged.stock_perm hassets
    rw [hmoved]
    rfl
  computed kind hkind := table_isOk_of_rearranged hrearranged hnames (h.computed kind hkind)
  judged := h.judged.perm (scope_perm config (readOffStock_perm hrearranged hnames))

/-- Completed scans of rearranged contents have the same findings in another order. -/
theorem Completed.rearranged {config : AuditConfig} {outcome other : ScanOutcome}
    (h : Completed inventory contents config outcome) (hother : Completed inventory others config other) :
    outcome.result = other.result ∧
      ∀ detector ∈ config.detectors, (outcome.findingsOf detector).Perm (other.findingsOf detector) := by
  have hfindings : ∀ detector ∈ config.detectors,
      (outcome.findingsOf detector).Perm (other.findingsOf detector) := by
    intro detector hdetector
    rw [h.findingsOf_eq detector hdetector, hother.findingsOf_eq detector hdetector, detected, detected]
    apply List.Perm.filterMap
    apply List.Perm.flatMap_left
    intro kind _
    exact readOffStock_perm hrearranged hnames kind
  refine ⟨?_, hfindings⟩
  rw [h.result_eq, hother.result_eq]
  exact Tally.ofFindings_perm (List.Perm.flatMap_left _ hfindings)

end Scan

end

/-! ## Scans of documents -/

namespace Scan

section

variable {docs others : List Value} {defaultNames : AssetKind → List String} {includeDefaults : Bool}
  {config : AuditConfig}

theorem toldApart_stocked {filed : List (AssetKind × Value)}
    (h : ∀ kind ∈ AssetKind.lookedUp,
      Asset.ToldApart (Snapshot.readable { manifests := filed } kind)) :
    ∀ kind ∈ AssetKind.lookedUp, Asset.ToldApart (stocked ⟨Snapshot.source defaultNames, includeDefaults⟩
      (Snapshot.answer { manifests := filed }) kind) := by
  intro kind hkind
  have hsublist : (stocked ⟨Snapshot.source defaultNames, includeDefaults⟩
      (Snapshot.answer { manifests := filed }) kind).Sublist
        (Snapshot.readable { manifests := filed } kind) := stocked_sublist_readable rfl
  exact (h kind hkind).sublist hsublist

theorem scanDocuments_isOk_of_perm (hperm : docs.Perm others)
    (hnames : ∀ kind ∈ AssetKind.lookedUp, Asset.ToldApart
      (Snapshot.readable { manifests := (Filing.fileAll "" docs).filed } kind))
    (h : (scanDocuments docs defaultNames includeDefaults config fun _ ↦ none).isOk = true) :
    (scanDocuments others defaultNames includeDefaults config fun _ ↦ none).isOk = true := by
  obtain ⟨hfault, hready⟩ := scanDocuments_isOk_iff.1 h
  obtain ⟨hothers, hfiled⟩ := Filing.fileAll_perm hperm hfault
  exact scanDocuments_isOk_iff.2 ⟨hothers,
    hready.rearranged (Snapshot.answer_rearranged hfiled) (toldApart_stocked hnames)⟩

end

/-- When the nodes, roles and cluster roles of some documents are told apart by their names, a scan of
the documents completes whatever their order, and its counts and its findings of every detector do not
depend on it. -/
theorem scanDocuments_perm (docs others : List Value) (defaultNames : AssetKind → List String)
    (includeDefaults : Bool) (config : AuditConfig) (hperm : docs.Perm others)
    (hnames : ∀ kind ∈ AssetKind.lookedUp, Asset.ToldApart
      (Snapshot.readable { manifests := (Filing.fileAll "" docs).filed } kind)) :
    (scanDocuments docs defaultNames includeDefaults config fun _ ↦ none).isOk =
      (scanDocuments others defaultNames includeDefaults config fun _ ↦ none).isOk ∧
    ∀ audience another outcome other,
      scanDocuments docs defaultNames includeDefaults config audience = .ok outcome →
      scanDocuments others defaultNames includeDefaults config another = .ok other →
        outcome.result = other.result ∧ ∀ detector ∈ config.detectors,
          (outcome.findingsOf detector).Perm (other.findingsOf detector) := by
  refine ⟨?_, ?_⟩
  · rw [Bool.eq_iff_iff]
    refine ⟨scanDocuments_isOk_of_perm hperm hnames, fun hothers ↦ ?_⟩
    obtain ⟨hfault, -⟩ := scanDocuments_isOk_iff.1 hothers
    obtain ⟨-, hfiled⟩ := Filing.fileAll_perm hperm.symm hfault
    have hotherNames : ∀ kind ∈ AssetKind.lookedUp, Asset.ToldApart
        (Snapshot.readable { manifests := (Filing.fileAll "" others).filed } kind) :=
      fun kind hkind ↦ (hnames kind hkind).perm (Snapshot.readable_perm hfiled.symm kind)
    exact scanDocuments_isOk_of_perm hperm.symm hotherNames hothers
  · intro audience another outcome other houtcome hother
    obtain ⟨hfault, hcompleted⟩ := completed_of_scanDocuments houtcome
    obtain ⟨-, hotherCompleted⟩ := completed_of_scanDocuments hother
    obtain ⟨-, hfiled⟩ := Filing.fileAll_perm hperm hfault
    exact hcompleted.rearranged (Snapshot.answer_rearranged hfiled) (toldApart_stocked hnames)
      hotherCompleted

/-- A pod with the rights of a role, and a second role and a second node of other names. -/
def crowded : List Value := undelegated ++ [
  named "auditor" "" ((.text "kind", .text "ClusterRole") :: readsSecrets),
  named "n2" "" [(.text "kind", .text "Node")]]

/-- From back to front the roles and the path are found as well. -/
theorem scanDocuments_perm_reverse_crowded :
    let config : AuditConfig := { rbac := some [2, 6], isolation := some [], podSecurity := some [] }
    let scan (docs : List Value) : Except Fault ScanOutcome :=
      scanDocuments docs (fun _ ↦ []) false config fun _ ↦ none
    ∃ forth back, scan crowded = .ok forth ∧ scan crowded.reverse = .ok back ∧
      forth.result = ⟨3, 0⟩ ∧ forth.result = back.result ∧ ∀ detector ∈ config.detectors,
        (forth.findingsOf detector).Perm (back.findingsOf detector) := by
  intro config scan
  have hforth : ∃ forth, scan crowded = .ok forth ∧ forth.result = ⟨3, 0⟩ := by
    apply exists_of_toOption_map
    change (scanDocuments crowded (fun _ ↦ []) false config fun _ ↦ none).toOption.map
      (·.result) = _
    rw [scanDocuments_of_resolvable (by decide +kernel) (by decide +kernel)
      (by decide +kernel)]
    decide +kernel
  obtain ⟨forth, hforth, hresult⟩ := hforth
  obtain ⟨hends, hsame⟩ := scanDocuments_perm crowded crowded.reverse (fun _ ↦ []) false config
    (List.reverse_perm crowded).symm (by decide +kernel)
  have hback : (scan crowded.reverse).isOk = true := by
    rw [← hends, show scanDocuments crowded _ _ _ _ = .ok forth from hforth]
    rfl
  obtain ⟨back, hback⟩ := exists_of_isOk hback
  obtain ⟨hcounts, hfindings⟩ := hsame _ _ forth back hforth hback
  exact ⟨forth, back, hforth, hback, hresult, hcounts, hfindings⟩

end Scan

end ClusterAudit
