import ClusterAudit.Proofs.Filtering
import ClusterAudit.Proofs.Scan.Dependencies

/-!
# Leaving out default objects

A scan that leaves out default objects has the findings of a scan that does not, without those that
touch a default object, and no others.  Leaving out objects by name never makes a binding find
another role or a pod another node: objects of one kind that compare equal to the same name are
default objects together.  A dependency that loses its role to the defaults keeps silent.
-/

namespace ClusterAudit

open Filtering Inventory Manifest SourceM Traversal

/-! ## Default objects -/

namespace Asset

variable (defaultNames : AssetKind → List String)

/-- Whether the name of an asset is a default name of its kind. -/
def isDefault (asset : Asset) : Bool :=
  (defaultNames asset.kind).any fun name ↦ asset.name = .text name

/-- Whether an asset is a default object, or is derived from one. -/
def touchesDefault : Asset → Bool
  | .schedulingPair pair =>
    pair.node.any (fun node ↦ (Asset.node node).isDefault defaultNames) ||
      pair.pod.any fun pod ↦ (Asset.pod pod).isDefault defaultNames
  | .escalationDependency dependency =>
    (Asset.binding dependency.binding).isDefault defaultNames ||
      dependency.role.any (fun role ↦ (Asset.role role).isDefault defaultNames) ||
      (Asset.node dependency.node).isDefault defaultNames ||
      (Asset.pod dependency.pod).isDefault defaultNames ||
      (defaultNames .serviceAccount).contains dependency.serviceAccount
  | asset => asset.isDefault defaultNames

variable {defaultNames}

theorem isDefault_congr {asset other : Asset} (hkind : asset.kind = other.kind)
    (hname : ∀ s : String, asset.name = .text s ↔ other.name = .text s) :
    asset.isDefault defaultNames = other.isDefault defaultNames := by
  unfold isDefault
  rw [hkind]
  congr 1
  funext name
  rw [decide_eq_decide]
  exact hname name

theorem touchesDefault_of_primary {asset : Asset} (h : asset.kind.isDerived = false) :
    asset.touchesDefault defaultNames = asset.isDefault defaultNames := by
  cases asset with
  | schedulingPair pair => cases h
  | escalationDependency dependency => cases h
  | _ => rfl

end Asset

/-! ## Lookups among what stays -/

section

variable (defaultNames : AssetKind → List String)

/-- The objects of a list that are no default objects. -/
def withoutDefaults {α : Type} (asset : α → Asset) (objects : List α) : List α :=
  objects.filter fun object ↦ !(asset object).isDefault defaultNames

theorem findRole_withoutDefaults {roles : List Role}
    (hroles : ∀ role ∈ roles, ∀ other ∈ roles, role.kind = other.kind) (binding : RoleBinding) :
    Escalation.findRole binding (withoutDefaults defaultNames .role roles) =
      (Escalation.findRole binding roles).filter fun role ↦
        !(Asset.role role).isDefault defaultNames := by
  apply find?_filter_of_forall
  intro role hrole other hother hsame hsameOther
  have hdefault : (Asset.role role).isDefault defaultNames = (Asset.role other).isDefault defaultNames :=
    Asset.isDefault_congr (hroles role hrole other hother) (Value.eq_text_iff_of_same hsame hsameOther)
  rw [hdefault]

theorem nodeOf_withoutDefaults (nodes : List Node) (pod : Pod) :
    Escalation.nodeOf (withoutDefaults defaultNames .node nodes) pod =
      (Escalation.nodeOf nodes pod).filter fun node ↦ !(Asset.node node).isDefault defaultNames := by
  apply find?_filter_of_forall
  intro node _ other _ hsame hsameOther
  have hdefault : (Asset.node node).isDefault defaultNames = (Asset.node other).isDefault defaultNames :=
    Asset.isDefault_congr rfl (Value.eq_text_iff_of_same hsame hsameOther)
  rw [hdefault]

theorem eligibleIdentity?_not_all (passedOver : List String) (subject : Subject) :
    Escalation.eligibleIdentity? passedOver false subject =
      (Escalation.eligibleIdentity? passedOver true subject).filter fun identity ↦
        !passedOver.contains identity := by
  unfold Escalation.eligibleIdentity?
  split
  · cases subject.identity? with
    | none => rfl
    | some identity => simp [Option.filter_some]
  · rfl

end

/-! ## Findings through what stays -/

namespace Scan

section

variable (defaultNames : AssetKind → List String)

/-- Whether a dependency touches no default object. -/
def isSpared (dependency : EscalationDependency) : Bool :=
  !(Asset.escalationDependency dependency).touchesDefault defaultNames

variable {defaultNames}

theorem isSpared_dependencyOn (binding : RoleBinding) (role : Option Role) (identity : String)
    (pod : Pod) (node : Node) :
    isSpared defaultNames (Escalation.dependencyOn binding role identity pod node) =
      (!(Asset.binding binding).isDefault defaultNames &&
        !role.any (fun r ↦ (Asset.role r).isDefault defaultNames) &&
        !(Asset.node node).isDefault defaultNames && !(Asset.pod pod).isDefault defaultNames &&
        !(defaultNames .serviceAccount).contains identity) := by
  simp only [isSpared, Asset.touchesDefault, Escalation.dependencyOn, Bool.not_or]

variable {roles : List Role} {nodes : List Node} {binding : RoleBinding} {subject : Subject} {pod : Pod}

theorem filter_isSpared_path? (h : (Asset.pod pod).isDefault defaultNames = true)
    (passedOver : List String) :
    (Escalation.path? roles nodes passedOver true binding subject pod).filter
      (isSpared defaultNames) = none := by
  rw [Option.filter_eq_none_iff]
  intro dependency hdependency
  obtain ⟨identity, node, -, -, -, rfl⟩ := Escalation.path?_eq_some_iff.1 hdependency
  rw [isSpared_dependencyOn, h]
  simp

/-- Through objects that stay, a subject and a pod give a finding exactly when they gave one that
touches no default object. -/
theorem path?_withoutDefaults (hroles : ∀ role ∈ roles, ∀ other ∈ roles, role.kind = other.kind)
    (hbinding : (Asset.binding binding).isDefault defaultNames = false)
    (hpod : (Asset.pod pod).isDefault defaultNames = false) :
    (Escalation.path? (withoutDefaults defaultNames .role roles)
        (withoutDefaults defaultNames .node nodes) (defaultNames .serviceAccount) false binding subject
        pod).bind pathFinding? =
      ((Escalation.path? roles nodes (defaultNames .serviceAccount) true binding subject pod).filter
        (isSpared defaultNames)).bind pathFinding? := by
  unfold Escalation.path?
  rw [eligibleIdentity?_not_all, nodeOf_withoutDefaults, findRole_withoutDefaults _ hroles]
  cases Escalation.eligibleIdentity? (defaultNames .serviceAccount) true subject with
  | none => rfl
  | some identity =>
    rw [Option.bind_some]
    cases hpassed : (defaultNames .serviceAccount).contains identity with
    | true =>
      -- The account is a default one, and so no dependency through it is spared.
      rw [Option.filter_some, hpassed, Bool.not_true, if_neg Bool.false_ne_true, Option.bind_none,
        Option.bind_none]
      split
      · cases Escalation.nodeOf nodes pod with
        | none => rfl
        | some node =>
          have hspared : isSpared defaultNames (Escalation.dependencyOn binding
              (Escalation.findRole binding roles) identity pod node) = false := by
            rw [isSpared_dependencyOn, hpassed, Bool.not_true, Bool.and_false]
          rw [Option.map_some, Option.filter_some, hspared]
          rfl
      · rfl
    | false =>
      rw [Option.filter_some, hpassed, Bool.not_false, if_pos rfl, Option.bind_some]
      split
      · cases Escalation.nodeOf nodes pod with
        | none => rfl
        | some node =>
          have hspared (role : Option Role) :
              isSpared defaultNames (Escalation.dependencyOn binding role identity pod node) =
                (!role.any (fun r ↦ (Asset.role r).isDefault defaultNames) &&
                  !(Asset.node node).isDefault defaultNames) := by
            rw [isSpared_dependencyOn, hbinding, hpod, hpassed]
            simp only [Bool.not_false, Bool.true_and, Bool.and_true]
          cases hnode : (Asset.node node).isDefault defaultNames with
          | true => simp [Option.filter_some, hspared, hnode]
          | false =>
            cases Escalation.findRole binding roles with
            | none => simp [Option.filter_some, hspared, hnode]
            | some role =>
              cases hrole : (Asset.role role).isDefault defaultNames with
              | false => simp [Option.filter_some, hspared, hnode, hrole]
              | true =>
                -- What is left is a dependency without role.
                simp [Option.filter_some, hspared, hnode, hrole]
                exact pathFinding?_without_role rfl
      · rfl

/-- The dependencies through objects that stay give the findings that touch no default object. -/
theorem paths_withoutDefaults (hroles : ∀ role ∈ roles, ∀ other ∈ roles, role.kind = other.kind)
    (bindings : List RoleBinding) (pods : List Pod) :
    (Escalation.paths (withoutDefaults defaultNames .binding bindings)
        (withoutDefaults defaultNames .role roles) (withoutDefaults defaultNames .node nodes)
        (withoutDefaults defaultNames .pod pods) (defaultNames .serviceAccount) false).filterMap
        pathFinding? =
      ((Escalation.paths bindings roles nodes pods (defaultNames .serviceAccount) true).filter
        (isSpared defaultNames)).filterMap pathFinding? := by
  unfold Escalation.paths
  have hdropped : ∀ binding ∈ bindings, (!(Asset.binding binding).isDefault defaultNames) = false →
      ∀ dependency ∈ binding.subjects.flatMap fun subject ↦ pods.filterMap
        (Escalation.path? roles nodes (defaultNames .serviceAccount) true binding subject),
        isSpared defaultNames dependency = false := by
    intro binding _ hdefault dependency hdependency
    obtain ⟨subject, -, hdependency⟩ := List.mem_flatMap.1 hdependency
    obtain ⟨pod, -, hdependency⟩ := List.mem_filterMap.1 hdependency
    obtain ⟨identity, node, -, -, -, rfl⟩ := Escalation.path?_eq_some_iff.1 hdependency
    rw [isSpared_dependencyOn, hdefault]
    simp
  rw [filter_flatMap_of_dropped hdropped, List.filterMap_flatMap, List.filterMap_flatMap]
  apply List.flatMap_congr
  intro binding hbinding
  have hdefault : (Asset.binding binding).isDefault defaultNames = false := by
    simpa using (List.mem_filter.1 hbinding).2
  rw [List.filterMap_flatMap, List.filter_flatMap, List.filterMap_flatMap]
  apply List.flatMap_congr
  intro subject _
  have hstays : ((withoutDefaults defaultNames .pod pods).filterMap
      (Escalation.path? (withoutDefaults defaultNames .role roles)
        (withoutDefaults defaultNames .node nodes) (defaultNames .serviceAccount) false binding
        subject)).filterMap pathFinding? =
      pods.filterMap fun pod ↦ if !(Asset.pod pod).isDefault defaultNames then
        (Escalation.path? (withoutDefaults defaultNames .role roles)
          (withoutDefaults defaultNames .node nodes) (defaultNames .serviceAccount) false binding
          subject pod).bind pathFinding? else none := by
    rw [List.filterMap_filterMap]
    exact List.filterMap_filter
  rw [hstays, List.filter_filterMap, List.filterMap_filterMap]
  apply List.filterMap_congr
  intro pod _
  cases hpod : (Asset.pod pod).isDefault defaultNames with
  | true =>
    rw [filter_isSpared_path? hpod]
    rfl
  | false => exact path?_withoutDefaults hroles hdefault hpod

end

/-! ## Findings among what stays -/

variable {defaultNames : AssetKind → List String}

theorem filterMap_withoutDefaults {α : Type} {part : Asset → Option α} {whole : α → Asset}
    (h : ∀ asset object, part asset = some object → asset = whole object) (assets : List Asset) :
    (assets.filter fun asset ↦ !asset.isDefault defaultNames).filterMap part =
      withoutDefaults defaultNames whole (assets.filterMap part) := by
  apply filterMap_filter_comm
  intro asset object hobject
  rw [h asset object hobject]

theorem pairs_withoutDefaults (nodes : List Node) (pods : List Pod) :
    pairs (withoutDefaults defaultNames .node nodes) (withoutDefaults defaultNames .pod pods) =
      (pairs nodes pods).filter fun asset ↦ !asset.touchesDefault defaultNames := by
  have hdropped : ∀ node ∈ nodes, (!(Asset.node node).isDefault defaultNames) = false →
      ∀ asset ∈ pods.map fun pod ↦ Asset.schedulingPair ⟨some node, some pod⟩,
        (!asset.touchesDefault defaultNames) = false := by
    intro node _ hnode asset hasset
    obtain ⟨pod, -, rfl⟩ := List.mem_map.1 hasset
    simp [Asset.touchesDefault, show (Asset.node node).isDefault defaultNames = true by simpa using hnode]
  rw [pairs, pairs, filter_flatMap_of_dropped hdropped]
  apply List.flatMap_congr
  intro node hnode
  have hdefault : (Asset.node node).isDefault defaultNames = false := by
    simpa using (List.mem_filter.1 hnode).2
  rw [List.filter_map]
  congr 1
  apply List.filter_congr
  intro pod _
  simp [Asset.touchesDefault, hdefault]

theorem detected_filter_touchesDefault (detector : Detector) (assets : List Asset) :
    detected detector (assets.filter fun asset ↦ !asset.touchesDefault defaultNames) =
      (detected detector assets).filter fun finding ↦ !finding.asset.touchesDefault defaultNames := by
  apply filterMap_filter_comm
  intro asset finding hfinding
  rw [(of_found? hfinding).2]

section

variable {stored : AssetKind → List Asset} (hkinds : ∀ kind, ∀ asset ∈ stored kind, asset.kind = kind)

include hkinds

theorem pathsBetween_withoutDefaults (bindingKind roleKind : AssetKind) :
    (pathsBetween (fun kind ↦ (stored kind).filter fun asset ↦ !asset.isDefault defaultNames)
        (defaultNames .serviceAccount) false bindingKind roleKind).filterMap pathFinding? =
      ((pathsBetween stored (defaultNames .serviceAccount) true bindingKind roleKind).filterMap
        pathFinding?).filter fun finding ↦ !finding.asset.touchesDefault defaultNames := by
  have hroles : ∀ role ∈ (stored roleKind).filterMap Asset.asRole?,
      ∀ other ∈ (stored roleKind).filterMap Asset.asRole?, role.kind = other.kind := by
    have hkind : ∀ role ∈ (stored roleKind).filterMap Asset.asRole?, role.kind = roleKind := by
      intro role hrole
      obtain ⟨asset, hasset, hpart⟩ := List.mem_filterMap.1 hrole
      rw [Asset.eq_role_of_asRole? hpart] at hasset
      exact hkinds roleKind _ hasset
    intro role hrole other hother
    rw [hkind role hrole, hkind other hother]
  have hspared : ∀ dependency finding, pathFinding? dependency = some finding →
      (!finding.asset.touchesDefault defaultNames) = isSpared defaultNames dependency := by
    intro dependency finding hfinding
    rw [(of_found? hfinding).2]
    rfl
  unfold pathsBetween
  rw [filterMap_withoutDefaults fun _ _ ↦ Asset.eq_binding_of_asBinding?,
    filterMap_withoutDefaults fun _ _ ↦ Asset.eq_role_of_asRole?,
    filterMap_withoutDefaults fun _ _ ↦ Asset.eq_node_of_asNode?,
    filterMap_withoutDefaults fun _ _ ↦ Asset.eq_pod_of_asPod?, paths_withoutDefaults hroles,
    filterMap_filter_comm hspared]

/-- Among the assets of a kind that are read off what stays, a detector finds what it found before
that touches no default object. -/
theorem detected_readOff_withoutDefaults {detector : Detector} (hdetector : detector ∈ Detector.all)
    {kind : AssetKind} (hkind : kind ∈ detector.kinds) :
    detected detector (readOff
        (fun kind ↦ (stored kind).filter fun asset ↦ !asset.isDefault defaultNames)
        (defaultNames .serviceAccount) false kind) =
      (detected detector (readOff stored (defaultNames .serviceAccount) true kind)).filter
        fun finding ↦ !finding.asset.touchesDefault defaultNames := by
  cases hderived : kind.isDerived with
  | false =>
    rw [readOff_of_primary hderived, readOff_of_primary hderived, ← detected_filter_touchesDefault]
    congr 1
    apply List.filter_congr
    intro asset hasset
    rw [Asset.touchesDefault_of_primary (hkinds kind asset hasset ▸ hderived)]
  | true =>
    cases kind with
    | schedulingPair =>
      rw [← detected_filter_touchesDefault]
      congr 1
      unfold readOff
      rw [filterMap_withoutDefaults fun _ _ ↦ Asset.eq_node_of_asNode?,
        filterMap_withoutDefaults fun _ _ ↦ Asset.eq_pod_of_asPod?, pairs_withoutDefaults]
    | escalationDependency =>
      rw [Detector.eq_escalationReport hdetector hkind]
      unfold readOff
      rw [detected_dependencies, detected_dependencies, allPaths, allPaths, List.filterMap_append,
        List.filterMap_append, List.filter_append, pathsBetween_withoutDefaults hkinds,
        pathsBetween_withoutDefaults hkinds]
    | _ => cases hderived

end

/-! ## Scans that leave out default objects -/

variable {σ : Type}

theorem stock_withoutDefaults {source : AssetSource σ}
    {contents : AssetKind → Except Fault (List Value)} {kind : AssetKind} {assets others : List Asset}
    (hall : stock ⟨source, true⟩ contents kind = .ok assets)
    (hkept : stock ⟨source, false⟩ contents kind = .ok others) :
    others = assets.filter fun asset ↦ !asset.isDefault source.defaultNames := by
  have hkinds := stock_kind hall
  obtain ⟨docs, hdocs, hall⟩ := bind_eq_ok hall
  obtain ⟨read, hread, hall⟩ := bind_eq_ok hall
  cases hall
  unfold stock at hkept
  rw [hdocs] at hkept
  obtain ⟨again, hagain, hkept⟩ := bind_eq_ok (x := docs.mapM (Asset.ofManifest kind)) hkept
  rw [hread] at hagain
  cases hagain
  rw [eq_kept_of_wanted _ hkept]
  apply List.filter_congr
  intro asset hasset
  rw [Asset.isDefault, hkinds asset hasset, Bool.eq_iff_iff]
  simp

/-- The findings of a scan that leaves out default objects are those of a scan that includes them
without those that touch a default object, detector by detector and in the same order. -/
theorem findings_without_defaults (list : AssetKind → SourceM σ (List Value))
    (defaultNames : AssetKind → List String) (start : σ)
    (contents : AssetKind → Except Fault (List Value)) (hfixed : Fixed list start contents)
    (config : AuditConfig) (audience other : Audience) (s t : InventoryState σ)
    (hs : Reached ⟨.ofManifests list defaultNames, true⟩ list start s)
    (ht : Reached ⟨.ofManifests list defaultNames, false⟩ list start t) (all kept : ScanOutcome)
    (hall : ((run config ⟨.ofManifests list defaultNames, true⟩ audience).run s).1 = .ok all)
    (hkept : ((run config ⟨.ofManifests list defaultNames, false⟩ other).run t).1 = .ok kept) :
    ∀ detector ∈ config.detectors, kept.findingsOf detector =
      (all.findingsOf detector).filter fun finding ↦
        !finding.asset.touchesDefault defaultNames := by
  intro detector hdetector
  have hcompletedAll := completed_of_run rfl hfixed (hs.faithful hfixed) hall
  have hcompletedKept := completed_of_run rfl hfixed (ht.faithful hfixed) hkept
  rw [hcompletedKept.findingsOf_eq detector hdetector, hcompletedAll.findingsOf_eq detector hdetector,
    detected, detected, List.filterMap_flatMap, List.filterMap_flatMap, List.filter_flatMap]
  apply List.flatMap_congr
  intro kind hkind
  have hscope : kind ∈ Detector.assetKinds config.detectors :=
    Detector.mem_assetKinds.2 ⟨detector, hdetector, hkind⟩
  have hstock : ∀ source ∈ kind.sources,
      stocked ⟨.ofManifests list defaultNames, false⟩ contents source =
        (stocked ⟨.ofManifests list defaultNames, true⟩ contents source).filter fun asset ↦
          !asset.isDefault defaultNames := fun source hsource ↦
    stock_withoutDefaults (hcompletedAll.stock_eq kind hscope source hsource)
      (hcompletedKept.stock_eq kind hscope source hsource)
  have hreadOff : readOffStock ⟨.ofManifests list defaultNames, false⟩ contents kind =
      readOff (fun source ↦ (stocked ⟨.ofManifests list defaultNames, true⟩ contents source).filter
        fun asset ↦ !asset.isDefault defaultNames) (defaultNames .serviceAccount) false kind :=
    readOff_congr hstock
  rw [hreadOff]
  exact detected_readOff_withoutDefaults (fun _ _ hasset ↦ stocked_kind hasset)
    (config.detectors_sublist.subset hdetector) hkind

/-- A service account with the rights of two roles, and a pod that runs as it. -/
def delegated : Snapshot where
  manifests := [
    (.node, named "n1" "" []),
    (.pod, named "worker" "ci" onNode),
    (.clusterRole, named "cluster-admin" "" readsSecrets),
    (.clusterRole, named "auditor" "" readsSecrets),
    (.clusterRoleBinding, named "first" "" (grants "ClusterRole" "cluster-admin")),
    (.clusterRoleBinding, named "second" "" (grants "ClusterRole" "auditor"))]

/-- One of two paths goes through a default role. -/
theorem findings_without_default_role :
    let config : AuditConfig := { rbac := some [6], isolation := some [], podSecurity := some [] }
    let defaultNames : AssetKind → List String := fun kind ↦
      if kind = .clusterRole then ["cluster-admin"] else []
    let scan (includeDefaults : Bool) : Except Fault ScanOutcome :=
      ((run config ⟨.ofManifests Snapshot.list defaultNames, includeDefaults⟩ fun _ ↦ none).run
        { source := delegated }).1
    ∃ all kept, scan true = .ok all ∧ scan false = .ok kept ∧
      (∀ detector ∈ config.detectors, kept.findingsOf detector =
        (all.findingsOf detector).filter fun finding ↦
          !finding.asset.touchesDefault defaultNames) ∧
      all.result = ⟨2, 0⟩ ∧ kept.result = ⟨1, 0⟩ := by
  intro config defaultNames scan
  have hfixed := delegated.list_fixed
  have hfresh (includeDefaults : Bool) :
      Reached ⟨.ofManifests Snapshot.list defaultNames, includeDefaults⟩ Snapshot.list delegated
        { source := delegated } := .fresh .start
  have hall : ∃ all, scan true = .ok all ∧ all.result = ⟨2, 0⟩ := by
    apply exists_of_toOption_map
    change ((run config ⟨.ofManifests Snapshot.list defaultNames, true⟩ fun _ ↦ none).run
      { source := delegated }).1.toOption.map (·.result) = _
    rw [run_result_of_resolvable rfl hfixed ((hfresh true).faithful hfixed)
      (by decide +kernel) (by decide +kernel)]
    decide +kernel
  have hkept : ∃ kept, scan false = .ok kept ∧ kept.result = ⟨1, 0⟩ := by
    apply exists_of_toOption_map
    change ((run config ⟨.ofManifests Snapshot.list defaultNames, false⟩ fun _ ↦ none).run
      { source := delegated }).1.toOption.map (·.result) = _
    rw [run_result_of_resolvable rfl hfixed ((hfresh false).faithful hfixed)
      (by decide +kernel) (by decide +kernel)]
    decide +kernel
  obtain ⟨all, hall, hboth⟩ := hall
  obtain ⟨kept, hkept, hone⟩ := hkept
  exact ⟨all, kept, hall, hkept, findings_without_defaults Snapshot.list defaultNames delegated
    delegated.answer hfixed config _ _ _ _ (hfresh true) (hfresh false) all kept hall hkept, hboth, hone⟩

end Scan

end ClusterAudit
