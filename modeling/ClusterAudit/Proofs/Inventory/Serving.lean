import ClusterAudit.Proofs.Inventory.ReadOff

/-!
# Inventories that serve every request

When all primary kinds can be read and names can be looked up, an inventory over fixed contents
answers every request, whatever it knows already: it gives what is read off the stock, and derives the
kinds that are derived without having been told of their sources before.
-/

namespace ClusterAudit.Inventory

open Manifest SourceM Traversal

variable {σ : Type} {inventory : Inventory σ} {list : AssetKind → SourceM σ (List Value)}
  {defaultNames : AssetKind → List String} {start : σ}
  {contents : AssetKind → Except Fault (List Value)} {s : InventoryState σ}

/-- All primary kinds can be read, and dependencies can be looked up by names. -/
structure Serviceable (inventory : Inventory σ) (contents : AssetKind → Except Fault (List Value)) :
    Prop where
  stock : ∀ source ∈ AssetKind.primary, (inventory.stock contents source).isOk = true
  resolvable : Resolvable (inventory.stocked contents)

theorem Serviceable.table_eq (hserviceable : inventory.Serviceable contents) (kind : AssetKind) :
    inventory.table contents kind = .ok (inventory.readOffStock contents kind) :=
  table_eq_readOffStock hserviceable.resolvable hserviceable.stock kind

section

variable (hsource : inventory.source = .ofManifests list defaultNames)
  (hfixed : Fixed list start contents) (hserviceable : inventory.Serviceable contents)

include hsource hfixed hserviceable

theorem Faithful.primary_run (h : inventory.Faithful list start contents s) (kind : AssetKind)
    (hprimary : kind.isDerived = false) :
    ∃ t, (inventory.primary kind).run s = (.ok (inventory.stocked contents kind), t) ∧
      inventory.Faithful list start contents t := by
  have hresult := h.assetsOf_run hsource hfixed (.inl hprimary)
  rw [hserviceable.table_eq, readOffStock, readOff_of_primary hprimary,
    inventory.assetsOf_primary hprimary] at hresult
  rcases hrun : (inventory.primary kind).run s with ⟨result, t⟩
  obtain ⟨hsteps, -⟩ := primary_run_steps hrun hprimary
  rw [hrun] at hresult
  obtain rfl : result = _ := hresult
  exact ⟨t, rfl, h.steps hsource hfixed hsteps⟩

theorem Faithful.derivePairs_run (h : inventory.Faithful list start contents s) :
    (inventory.derivePairs.run s).1 = .ok (inventory.readOffStock contents .schedulingPair) := by
  obtain ⟨t, hnodes, ht⟩ := h.primary_run hsource hfixed hserviceable .node rfl
  unfold derivePairs
  rw [run_bind_of_ok hnodes]
  dsimp only
  split
  · rename_i hempty
    have hnone : (inventory.stocked contents .node).filterMap Asset.asNode? = [] :=
      List.isEmpty_iff.1 hempty
    rw [readOffStock, readOff, hnone]
    rfl
  · obtain ⟨u, hpods, -⟩ := ht.primary_run hsource hfixed hserviceable .pod rfl
    rw [run_bind_of_ok hpods]
    rfl

theorem Faithful.resolveKinds_run (h : inventory.Faithful list start contents s)
    (bindingKind roleKind : AssetKind) (hbinding : bindingKind.isDerived = false)
    (hrole : roleKind.isDerived = false)
    (hlegible : Escalation.Legible ((inventory.stocked contents bindingKind).filterMap Asset.asBinding?)
      ((inventory.stocked contents roleKind).filterMap Asset.asRole?)
      ((inventory.stocked contents .pod).filterMap Asset.asPod?)) :
    ∃ t, (inventory.resolveKinds ((inventory.stocked contents .node).filterMap Asset.asNode?)
        ((inventory.stocked contents .pod).filterMap Asset.asPod?) bindingKind roleKind).run s =
      (.ok (pathsBetween (inventory.stocked contents)
        (inventory.source.defaultNames .serviceAccount) inventory.includeDefaults bindingKind roleKind),
        t) ∧ inventory.Faithful list start contents t := by
  obtain ⟨t, hbindings, ht⟩ := h.primary_run hsource hfixed hserviceable bindingKind hbinding
  obtain ⟨u, hroles, hu⟩ := ht.primary_run hsource hfixed hserviceable roleKind hrole
  refine ⟨u, ?_, hu⟩
  unfold resolveKinds
  rw [run_bind_of_ok hbindings, run_bind_of_ok hroles]
  dsimp only
  rw [Escalation.resolve_eq_paths _ hserviceable.resolvable.nodes hserviceable.resolvable.pods hlegible]
  rfl

theorem Faithful.deriveDependencies_run (h : inventory.Faithful list start contents s) :
    (inventory.deriveDependencies.run s).1 =
      .ok (inventory.readOffStock contents .escalationDependency) := by
  obtain ⟨t, hnodes, ht⟩ := h.primary_run hsource hfixed hserviceable .node rfl
  obtain ⟨u, hpods, hu⟩ := ht.primary_run hsource hfixed hserviceable .pod rfl
  obtain ⟨v, hclusterWide, hv⟩ := hu.resolveKinds_run hsource hfixed hserviceable
    .clusterRoleBinding .clusterRole rfl rfl hserviceable.resolvable.clusterWide
  obtain ⟨w, hnamespaced, -⟩ := hv.resolveKinds_run hsource hfixed hserviceable
    .roleBinding .role rfl rfl hserviceable.resolvable.namespaced
  unfold deriveDependencies
  rw [run_bind_of_ok hnodes, run_bind_of_ok hpods]
  dsimp only
  rw [run_bind_of_ok hclusterWide, run_bind_of_ok hnamespaced]
  rfl

/-- Any kind is answered, whatever is known. -/
theorem Faithful.assetsOf_run_ok (h : inventory.Faithful list start contents s) (kind : AssetKind) :
    ((inventory.assetsOf kind).run s).1 = .ok (inventory.readOffStock contents kind) := by
  have hremembered {load : InventoryM σ (List Asset)}
      (hload : (load.run s).1 = .ok (inventory.readOffStock contents kind)) :
      ((remembered kind load).run s).1 = .ok (inventory.readOffStock contents kind) := by
    rw [remembered_run]
    cases hknown : known? s.known kind with
    | some assets =>
      rw [← hserviceable.table_eq]
      exact (h.known_eq kind assets hknown).symm
    | none =>
      rcases hrun : load.run s with ⟨result, t⟩
      rw [hrun] at hload
      obtain rfl : result = _ := hload
      rfl
  cases hderived : kind.isDerived with
  | false => rw [h.assetsOf_run hsource hfixed (.inl hderived), hserviceable.table_eq]
  | true =>
    cases kind with
    | schedulingPair => exact hremembered (h.derivePairs_run hsource hfixed hserviceable)
    | escalationDependency => exact hremembered (h.deriveDependencies_run hsource hfixed hserviceable)
    | _ => cases hderived

/-- Any kinds are answered, kind by kind, whatever is known. -/
theorem Faithful.getAssets_run_ok (h : inventory.Faithful list start contents s)
    (kinds : List AssetKind) :
    ((inventory.getAssets kinds).run s).1 = .ok (kinds.flatMap (inventory.readOffStock contents)) := by
  induction kinds generalizing s with
  | nil => rfl
  | cons kind rest ih =>
    have hfirst := h.assetsOf_run_ok hsource hfixed hserviceable kind
    rw [getAssets_cons_run]
    rcases hrun : (inventory.assetsOf kind).run s with ⟨result, t⟩
    obtain ⟨hsteps, -⟩ := assetsOf_run_steps hrun
    have hrest := ih (h.steps hsource hfixed hsteps)
    rw [hrun] at hfirst
    obtain rfl : result = _ := hfirst
    dsimp only
    rcases hlater : (inventory.getAssets rest).run t with ⟨others, u⟩
    rw [hlater] at hrest
    obtain rfl : others = _ := hrest
    rw [List.flatMap_cons]

end

end ClusterAudit.Inventory
