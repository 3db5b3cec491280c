import ClusterAudit.Proofs.Filtering
import ClusterAudit.Proofs.Scan.Dependencies
import ClusterAudit.Proofs.Source.Filing

/-!
# Adding documents

A scan of some documents and of further ones after them keeps all findings of a scan of the first
ones alone.  Further objects come behind those that were there, so that a binding still finds the
role and a pod still finds the node that it has found; only a binding that has found no role, and
has kept silent, may find one among the further objects.
-/

namespace ClusterAudit

open Filtering Inventory Manifest SourceM Traversal

namespace Scan

/-! ## Lookups in longer lists -/

section

variable {roles moreRoles : List Role} {nodes moreNodes : List Node} {passedOver : List String}
  {wantAll : Bool}

/-- A subject and a pod that give a finding give the same one when there are more roles and nodes. -/
theorem path?_finding_of_prefix (hroles : roles <+: moreRoles) (hnodes : nodes <+: moreNodes)
    {binding : RoleBinding} {subject : Subject} {pod : Pod} {finding : Finding}
    (h : (Escalation.path? roles nodes passedOver wantAll binding subject pod).bind pathFinding? =
      some finding) :
    (Escalation.path? moreRoles moreNodes passedOver wantAll binding subject pod).bind pathFinding? =
      some finding := by
  obtain ⟨dependency, hdependency, hfinding⟩ := Option.bind_eq_some_iff.1 h
  obtain ⟨identity, node, heligible, haccount, hnode, rfl⟩ :=
    Escalation.path?_eq_some_iff.1 hdependency
  cases hrole : Escalation.findRole binding roles with
  | none =>
    -- Without a role there would be no finding.
    rw [hrole, pathFinding?_without_role rfl] at hfinding
    cases hfinding
  | some role =>
    rw [hrole] at hfinding
    have hmoreRole : Escalation.findRole binding moreRoles = some role := hroles.find?_eq_some hrole
    have hmoreNode : Escalation.nodeOf moreNodes pod = some node := hnodes.find?_eq_some hnode
    have hpath : Escalation.path? moreRoles moreNodes passedOver wantAll binding subject pod =
        some (Escalation.dependencyOn binding (some role) identity pod node) :=
      Escalation.path?_eq_some_iff.2
        ⟨identity, node, heligible, haccount, hmoreNode, by rw [hmoreRole]⟩
    rw [hpath]
    exact hfinding

theorem paths_sublist {bindings moreBindings : List RoleBinding} {pods morePods : List Pod}
    (hbindings : bindings <+: moreBindings) (hroles : roles <+: moreRoles)
    (hnodes : nodes <+: moreNodes) (hpods : pods <+: morePods) :
    ((Escalation.paths bindings roles nodes pods passedOver wantAll).filterMap pathFinding?).Sublist
      ((Escalation.paths moreBindings moreRoles moreNodes morePods passedOver wantAll).filterMap
        pathFinding?) := by
  unfold Escalation.paths
  rw [List.filterMap_flatMap, List.filterMap_flatMap]
  apply flatMap_sublist hbindings.sublist
  intro binding _
  rw [List.filterMap_flatMap, List.filterMap_flatMap]
  apply flatMap_sublist (List.Sublist.refl _)
  intro subject _
  rw [List.filterMap_filterMap, List.filterMap_filterMap]
  apply filterMap_sublist hpods.sublist
  intro pod _ finding hfinding
  exact path?_finding_of_prefix hroles hnodes hfinding

end

/-! ## Findings in a larger stock -/

section

variable {stored larger : AssetKind → List Asset} {passedOver : List String} {wantAll : Bool}

theorem pathsBetween_sublist (h : ∀ source ∈ AssetKind.sources .escalationDependency,
    stored source <+: larger source) {bindingKind roleKind : AssetKind}
    (hbinding : bindingKind ∈ AssetKind.sources .escalationDependency)
    (hrole : roleKind ∈ AssetKind.sources .escalationDependency) :
    ((pathsBetween stored passedOver wantAll bindingKind roleKind).filterMap pathFinding?).Sublist
      ((pathsBetween larger passedOver wantAll bindingKind roleKind).filterMap pathFinding?) :=
  paths_sublist ((h bindingKind hbinding).filterMap _) ((h roleKind hrole).filterMap _)
    ((h .node (by decide)).filterMap _) ((h .pod (by decide)).filterMap _)

/-- What a detector finds among the assets of a kind it still finds when there are more objects. -/
theorem detected_readOff_sublist {detector : Detector} (hdetector : detector ∈ Detector.all)
    {kind : AssetKind} (hkind : kind ∈ detector.kinds)
    (h : ∀ source ∈ kind.sources, stored source <+: larger source) :
    (detected detector (readOff stored passedOver wantAll kind)).Sublist
      (detected detector (readOff larger passedOver wantAll kind)) := by
  cases kind with
  | schedulingPair =>
    have hnodes := (h .node (by decide)).filterMap Asset.asNode?
    have hpods := (h .pod (by decide)).filterMap Asset.asPod?
    apply List.Sublist.filterMap
    apply flatMap_sublist hnodes.sublist
    intro node _
    exact hpods.sublist.map _
  | escalationDependency =>
    rw [Detector.eq_escalationReport hdetector hkind]
    unfold readOff
    rw [detected_dependencies, detected_dependencies, allPaths, allPaths, List.filterMap_append,
      List.filterMap_append]
    exact (pathsBetween_sublist h (by decide) (by decide)).append
      (pathsBetween_sublist h (by decide) (by decide))
  | _ => exact (h _ List.mem_cons_self).sublist.filterMap _

variable {σ : Type} {inventory : Inventory σ} {contents more : AssetKind → Except Fault (List Value)}

theorem stock_prefix {kind : AssetKind} {docs extra : List Value} (hdocs : contents kind = .ok docs)
    (hmore : more kind = .ok (docs ++ extra)) {assets others : List Asset}
    (hassets : inventory.stock contents kind = .ok assets)
    (hothers : inventory.stock more kind = .ok others) : assets <+: others := by
  unfold stock at hassets hothers
  rw [hdocs] at hassets
  rw [hmore] at hothers
  obtain ⟨read, hread, hassets⟩ := bind_eq_ok (x := docs.mapM (Asset.ofManifest kind)) hassets
  obtain ⟨readAll, hreadAll, hothers⟩ :=
    bind_eq_ok (x := (docs ++ extra).mapM (Asset.ofManifest kind)) hothers
  obtain ⟨again, later, hagain, -, rfl⟩ := mapM_append_eq_ok hreadAll
  rw [hread] at hagain
  cases hagain
  rw [inventory.eq_kept_of_wanted hassets, inventory.eq_kept_of_wanted hothers, kept_append]
  exact List.prefix_append _ _

end

/-! ## Scans of documents -/

/-- Puts documents into a new snapshot and scans it with a new inventory. -/
def scanDocuments (docs : List Value) (defaultNames : AssetKind → List String)
    (includeDefaults : Bool) (config : AuditConfig) (audience : Audience) :
    Except Fault ScanOutcome :=
  match (Snapshot.addAll docs).run {} with
  | (.error fault, _) => .error fault
  | (.ok _, snapshot) =>
    ((run config ⟨Snapshot.source defaultNames, includeDefaults⟩ audience).run
      { source := snapshot }).1

/-- A scan of documents fails when they cannot be filed, or ends as the scan of what is filed. -/
theorem scanDocuments_eq (docs : List Value) (defaultNames : AssetKind → List String)
    (includeDefaults : Bool) (config : AuditConfig) (audience : Audience) :
    scanDocuments docs defaultNames includeDefaults config audience =
      ((Filing.fileAll "" docs).result >>= fun _ ↦
        ((run config ⟨Snapshot.source defaultNames, includeDefaults⟩ audience).run
          { source := { manifests := (Filing.fileAll "" docs).filed } }).1) := by
  rw [scanDocuments, Snapshot.addAll_run]
  cases (Filing.fileAll "" docs).result with
  | error fault => rfl
  | ok _ => rfl

theorem completed_of_scanDocuments {docs : List Value} {defaultNames : AssetKind → List String}
    {includeDefaults : Bool} {config : AuditConfig} {audience : Audience} {outcome : ScanOutcome}
    (h : scanDocuments docs defaultNames includeDefaults config audience = .ok outcome) :
    (Filing.fileAll "" docs).fault = none ∧
      Completed ⟨Snapshot.source defaultNames, includeDefaults⟩
        (Snapshot.answer { manifests := (Filing.fileAll "" docs).filed }) config outcome := by
  rw [scanDocuments_eq] at h
  obtain ⟨_, hresult, hrun⟩ := bind_eq_ok h
  have hfixed := Snapshot.list_fixed { manifests := (Filing.fileAll "" docs).filed }
  exact ⟨Filing.fault_of_result hresult,
    completed_of_run rfl hfixed ((Reached.fresh .start).faithful hfixed) hrun⟩

/-- With all primary kinds in stock, and keys for the names of nodes, a scan of documents that can be
filed can be computed without the indexes of nodes and pods. -/
theorem scanDocuments_of_resolvable {docs : List Value} {defaultNames : AssetKind → List String}
    {includeDefaults : Bool} {config : AuditConfig} {audience : Audience}
    (hresult : (Filing.fileAll "" docs).result = .ok ())
    (hkeys : Resolvable (stocked ⟨Snapshot.source defaultNames, includeDefaults⟩
      (Snapshot.answer { manifests := (Filing.fileAll "" docs).filed })))
    (hstock : ∀ kind ∈ AssetKind.primary,
      (stock ⟨Snapshot.source defaultNames, includeDefaults⟩
        (Snapshot.answer { manifests := (Filing.fileAll "" docs).filed }) kind).isOk = true) :
    scanDocuments docs defaultNames includeDefaults config audience =
      (conclude config audience (readOffStock ⟨Snapshot.source defaultNames, includeDefaults⟩
        (Snapshot.answer { manifests := (Filing.fileAll "" docs).filed }))).1 := by
  have hfixed := Snapshot.list_fixed { manifests := (Filing.fileAll "" docs).filed }
  rw [scanDocuments_eq, hresult]
  exact run_result_of_resolvable rfl hfixed ((Reached.fresh .start).faithful hfixed) hkeys hstock

theorem tally_le_of_sublist {findings more : List Finding} (h : findings.Sublist more) :
    (Tally.ofFindings findings).vulnerabilities ≤ (Tally.ofFindings more).vulnerabilities ∧
      (Tally.ofFindings findings).warnings ≤ (Tally.ofFindings more).warnings := by
  rw [Tally.ofFindings_eq_countP, Tally.ofFindings_eq_countP]
  exact ⟨h.countP_le, h.countP_le⟩

/-- When documents are added behind others, every detector keeps its findings, in their order, and
no count decreases. -/
theorem scanDocuments_append (docs extra : List Value) (defaultNames : AssetKind → List String)
    (includeDefaults : Bool) (config : AuditConfig) (audience other : Audience)
    (small large : ScanOutcome)
    (hsmall : scanDocuments docs defaultNames includeDefaults config audience = .ok small)
    (hlarge : scanDocuments (docs ++ extra) defaultNames includeDefaults config other = .ok large) :
    (∀ detector ∈ config.detectors,
      (small.findingsOf detector).Sublist (large.findingsOf detector)) ∧
    small.result.vulnerabilities ≤ large.result.vulnerabilities ∧
    small.result.warnings ≤ large.result.warnings := by
  obtain ⟨hfault, hsmallScan⟩ := completed_of_scanDocuments hsmall
  obtain ⟨hlargeFault, hlargeScan⟩ := completed_of_scanDocuments hlarge
  obtain ⟨-, hfiled⟩ := Filing.fileAll_append_of_no_fault hlargeFault
  have hanswer (kind : AssetKind) :
      Snapshot.answer { manifests := (Filing.fileAll "" (docs ++ extra)).filed } kind =
        .ok (Snapshot.manifestsOf { manifests := (Filing.fileAll "" docs).filed } kind ++
          Snapshot.manifestsOf { manifests := (Filing.fileAll "" extra).filed } kind) := by
    rw [hfiled]
    simp [Snapshot.answer, Snapshot.manifestsOf]
  have hdetectors : ∀ detector ∈ config.detectors,
      (small.findingsOf detector).Sublist (large.findingsOf detector) := by
    intro detector hdetector
    rw [hsmallScan.findingsOf_eq detector hdetector, hlargeScan.findingsOf_eq detector hdetector,
      detected, detected, List.filterMap_flatMap, List.filterMap_flatMap]
    apply flatMap_sublist (List.Sublist.refl _)
    intro kind hkind
    have hscope : kind ∈ Detector.assetKinds config.detectors :=
      Detector.mem_assetKinds.2 ⟨detector, hdetector, hkind⟩
    exact detected_readOff_sublist (config.detectors_sublist.subset hdetector) hkind
      fun source hsource ↦ stock_prefix rfl (hanswer source)
        (hsmallScan.stock_eq kind hscope source hsource)
        (hlargeScan.stock_eq kind hscope source hsource)
  refine ⟨hdetectors, ?_⟩
  rw [hsmallScan.result_eq, hlargeScan.result_eq]
  exact tally_le_of_sublist (flatMap_sublist (List.Sublist.refl _) hdetectors)

/-- A pod with the rights of a role that is not among the documents, and a role that nobody has. -/
def undelegated : List Value := [
  named "n1" "" [(.text "kind", .text "Node")],
  named "worker" "ci" ((.text "kind", .text "Pod") :: onNode),
  named "binding" "" ((.text "kind", .text "ClusterRoleBinding") :: grants "ClusterRole" "auditor"),
  named "other" "" ((.text "kind", .text "ClusterRole") :: readsSecrets)]

/-- The missing role, and a second one of its name without rules. -/
def auditors : List Value := [
  named "auditor" "" ((.text "kind", .text "ClusterRole") :: readsSecrets),
  named "auditor" "" [(.text "kind", .text "ClusterRole")]]

/-- A role that was missing gives the roles and a path as further findings. -/
theorem scanDocuments_append_auditors :
    let config : AuditConfig := { rbac := some [2, 6], isolation := some [], podSecurity := some [] }
    let scan (docs : List Value) : Except Fault ScanOutcome :=
      scanDocuments docs (fun _ ↦ []) false config fun _ ↦ none
    ∃ small large, scan undelegated = .ok small ∧ scan (undelegated ++ auditors) = .ok large ∧
      ((∀ detector ∈ config.detectors,
        (small.findingsOf detector).Sublist (large.findingsOf detector)) ∧
      small.result.vulnerabilities ≤ large.result.vulnerabilities ∧
      small.result.warnings ≤ large.result.warnings) ∧
      small.result = ⟨1, 0⟩ ∧ large.result = ⟨3, 0⟩ := by
  intro config scan
  have hsmall : ∃ small, scan undelegated = .ok small ∧ small.result = ⟨1, 0⟩ := by
    apply exists_of_toOption_map
    change (scanDocuments undelegated (fun _ ↦ []) false config fun _ ↦ none).toOption.map
      (·.result) = _
    rw [scanDocuments_of_resolvable (by decide +kernel) (by decide +kernel)
      (by decide +kernel)]
    decide +kernel
  have hlarge : ∃ large, scan (undelegated ++ auditors) = .ok large ∧ large.result = ⟨3, 0⟩ := by
    apply exists_of_toOption_map
    change (scanDocuments (undelegated ++ auditors) (fun _ ↦ []) false config
      fun _ ↦ none).toOption.map (·.result) = _
    rw [scanDocuments_of_resolvable (by decide +kernel) (by decide +kernel)
      (by decide +kernel)]
    decide +kernel
  obtain ⟨small, hsmall, hone⟩ := hsmall
  obtain ⟨large, hlarge, hthree⟩ := hlarge
  exact ⟨small, large, hsmall, hlarge, scanDocuments_append undelegated auditors (fun _ ↦ []) false
    config _ _ small large hsmall hlarge, hone, hthree⟩

end Scan

end ClusterAudit
