import ClusterAudit.Proofs.Inventory.Growth
import ClusterAudit.Proofs.Source.Listing

/-!
# Inventories over fixed contents

When a source always lists the same manifests, there is one table of the assets of all kinds, and an
inventory knows nothing else than entries of this table, whatever it was asked for before.  What it
answers for kinds that it can serve does not depend on its state.
-/

namespace ClusterAudit

open Manifest

variable {σ : Type}

/-! ## Fixed contents -/

/-- The states that a source reaches by listing kinds. -/
inductive Listed (list : AssetKind → SourceM σ (List Value)) (start : σ) : σ → Prop
  | start : Listed list start start
  | list {state : σ} (h : Listed list start state) (kind : AssetKind) :
      Listed list start ((list kind).run state).2

/-- Whatever was listed before, listing a kind gives the same manifests or the same fault. -/
def Fixed (list : AssetKind → SourceM σ (List Value)) (start : σ)
    (contents : AssetKind → Except Fault (List Value)) : Prop :=
  ∀ state, Listed list start state → ∀ kind, ((list kind).run state).1 = contents kind

theorem Snapshot.list_fixed (snapshot : Snapshot) : Fixed Snapshot.list snapshot snapshot.answer := by
  have hsame : ∀ state, Listed Snapshot.list snapshot state →
      state.outages = snapshot.outages ∧ state.manifests = snapshot.manifests := by
    intro state hstate
    induction hstate with
    | start => exact ⟨rfl, rfl⟩
    | list _ kind ih =>
      rw [Snapshot.list_run]
      exact ih
  intro state hstate kind
  obtain ⟨houtages, hmanifests⟩ := hsame state hstate
  rw [Snapshot.list_run, answer, answer, manifestsOf, manifestsOf, houtages, hmanifests]

theorem Cluster.list_fixed {cluster : Cluster} (hadmits : cluster.Admits) :
    Fixed Cluster.list cluster fun kind ↦ answer kind (cluster.replyFor kind) := by
  have hsame : ∀ state, Listed Cluster.list cluster state →
      state.Admits ∧ state.replies = cluster.replies := by
    intro state hstate
    induction hstate with
    | start => exact ⟨hadmits, rfl⟩
    | list _ kind ih =>
      obtain ⟨calls, warnings, hlist⟩ := list_run_of_admits ih.1 kind
      rw [hlist]
      exact ⟨.inl rfl, ih.2⟩
  intro state hstate kind
  obtain ⟨hstill, hreplies⟩ := hsame state hstate
  obtain ⟨calls, warnings, hlist⟩ := list_run_of_admits hstill kind
  have hreply : state.replyFor kind = cluster.replyFor kind := by
    unfold replyFor
    rw [hreplies]
  rw [hlist]
  exact congrArg (answer kind) hreply

namespace Inventory

open SourceM

/-! ## The table -/

/-- The assets that a primary kind has in an inventory over fixed contents. -/
def stock (inventory : Inventory σ) (contents : AssetKind → Except Fault (List Value))
    (kind : AssetKind) : Except Fault (List Asset) := do
  let docs ← contents kind
  let assets ← docs.mapM (Asset.ofManifest kind)
  inventory.wanted kind assets

/-- The assets that any kind has in an inventory over fixed contents. -/
def table (inventory : Inventory σ) (contents : AssetKind → Except Fault (List Value))
    (kind : AssetKind) : Except Fault (List Asset) :=
  if kind.isDerived then
    inventory.derive (fun source ↦ (inventory.stock contents source).toOption.getD []) kind
  else inventory.stock contents kind

/-- An inventory over a source that has listed, which knows only what stands in the table. -/
structure Faithful (inventory : Inventory σ) (list : AssetKind → SourceM σ (List Value)) (start : σ)
    (contents : AssetKind → Except Fault (List Value)) (s : InventoryState σ) : Prop where
  source_listed : Listed list start s.source
  known_eq : ∀ kind assets, known? s.known kind = some assets →
    inventory.table contents kind = .ok assets

theorem derive_congr (inventory : Inventory σ) {kind : AssetKind}
    {stored other : AssetKind → List Asset}
    (h : ∀ source ∈ kind.sources, stored source = other source) :
    inventory.derive stored kind = inventory.derive other kind := by
  cases kind with
  | schedulingPair =>
    rw [derive, derive, h .node (by decide), h .pod (by decide)]
  | escalationDependency =>
    unfold derive
    rw [h .node (by decide), h .pod (by decide), h .clusterRoleBinding (by decide),
      h .clusterRole (by decide), h .roleBinding (by decide), h .role (by decide)]
  | _ => exact congrArg Except.ok (h _ List.mem_cons_self)

section

variable {inventory : Inventory σ} {list : AssetKind → SourceM σ (List Value)}
  {defaultNames : AssetKind → List String} {start : σ}
  {contents : AssetKind → Except Fault (List Value)} {s t : InventoryState σ} {kind : AssetKind}

theorem load_eq_stock (hsource : inventory.source = .ofManifests list defaultNames)
    (hfixed : Fixed list start contents) (hprimary : kind.isDerived = false) {source : σ}
    (hlisted : Listed list start source) :
    inventory.load kind source = (inventory.stock contents kind, ((list kind).run source).2) := by
  unfold load stock
  rw [hsource, AssetSource.ofManifests_fetch_run list defaultNames hprimary, hfixed source hlisted]
  cases contents kind with
  | error fault => rfl
  | ok docs => rfl

theorem table_of_primary (hprimary : kind.isDerived = false) :
    inventory.table contents kind = inventory.stock contents kind := by
  rw [table, hprimary, if_neg Bool.false_ne_true]

theorem table_of_derived (hderived : kind.isDerived = true) :
    inventory.table contents kind =
      inventory.derive (fun source ↦ (inventory.stock contents source).toOption.getD []) kind := by
  rw [table, if_pos hderived]

/-- What is known of a primary kind is what the table has for the derived ones. -/
theorem Faithful.stock_eq (h : inventory.Faithful list start contents s)
    (hprimary : kind.isDerived = false) {assets : List Asset}
    (hassets : known? s.known kind = some assets) :
    (inventory.stock contents kind).toOption.getD [] = assets := by
  have hstock := h.known_eq kind assets hassets
  rw [table_of_primary hprimary] at hstock
  rw [hstock]
  rfl

theorem Faithful.derivation (h : inventory.Faithful list start contents s) {assets : List Asset}
    (hassets : inventory.Derivation s.known kind assets) :
    inventory.table contents kind = .ok assets := by
  cases hassets with
  | noPairs hnodes hempty =>
    rw [table_of_derived rfl, derive, h.stock_eq rfl hnodes, hempty]
    rfl
  | pairs hnodes hpods =>
    rw [table_of_derived rfl, derive, h.stock_eq rfl hnodes, h.stock_eq rfl hpods]
  | dependencies hwideBindings hwideRoles hbindings hroles hnodes hpods hclusterWide hnamespaced =>
    rw [table_of_derived rfl, derive, h.stock_eq rfl hwideBindings, h.stock_eq rfl hwideRoles,
      h.stock_eq rfl hbindings, h.stock_eq rfl hroles, h.stock_eq rfl hnodes, h.stock_eq rfl hpods,
      hclusterWide, hnamespaced]
    rfl

theorem Faithful.known_append (h : inventory.Faithful list start contents s) {assets : List Asset}
    (hassets : inventory.table contents kind = .ok assets) :
    ∀ other others, known? (s.known ++ [(kind, assets)]) other = some others →
      inventory.table contents other = .ok others := by
  intro other others hothers
  cases hknown : known? s.known other with
  | some found =>
    rw [known?_append_of_some hknown] at hothers
    rw [← Option.some.inj hothers]
    exact h.known_eq other found hknown
  | none =>
    by_cases hsame : kind = other
    · subst hsame
      rw [known?_append_self hknown] at hothers
      rw [← Option.some.inj hothers]
      exact hassets
    · rw [known?_append_of_ne hsame, hknown] at hothers
      cases hothers

/-- Steps learn nothing else than entries of the table. -/
theorem Faithful.step (hsource : inventory.source = .ofManifests list defaultNames)
    (hfixed : Fixed list start contents) (h : inventory.Faithful list start contents s)
    (hstep : inventory.Step s kind t) : inventory.Faithful list start contents t := by
  cases hstep with
  | fetched hprimary hunknown hload =>
    rw [load_eq_stock hsource hfixed hprimary h.source_listed] at hload
    obtain ⟨hstock, rfl⟩ := Prod.mk.inj hload
    refine ⟨h.source_listed.list kind, h.known_append ?_⟩
    rw [table_of_primary hprimary, hstock]
  | failed hprimary hunknown hload =>
    rw [load_eq_stock hsource hfixed hprimary h.source_listed] at hload
    obtain ⟨-, rfl⟩ := Prod.mk.inj hload
    exact ⟨h.source_listed.list kind, h.known_eq⟩
  | derived hunknown hassets => exact ⟨h.source_listed, h.known_append (h.derivation hassets)⟩

theorem Faithful.steps (hsource : inventory.source = .ofManifests list defaultNames)
    (hfixed : Fixed list start contents) (h : inventory.Faithful list start contents s)
    {p : AssetKind → Prop} (hsteps : inventory.Steps p s t) :
    inventory.Faithful list start contents t :=
  hsteps.invariant (fun _ _ _ hstep hs ↦ hs.step hsource hfixed hstep) h

/-- A primary kind, or one whose primary kinds are known, is answered as it stands in the table. -/
theorem Faithful.assetsOf_run (hsource : inventory.source = .ofManifests list defaultNames)
    (hfixed : Fixed list start contents) (h : inventory.Faithful list start contents s)
    (hkind : kind.isDerived = false ∨ SourcesKnown s.known kind) :
    ((inventory.assetsOf kind).run s).1 = inventory.table contents kind := by
  cases hknown : known? s.known kind with
  | some assets => rw [inventory.assetsOf_run_known hknown, h.known_eq kind assets hknown]
  | none =>
    cases hderived : kind.isDerived with
    | false =>
      rw [inventory.assetsOf_primary hderived, inventory.primary_run_unknown hknown,
        load_eq_stock hsource hfixed hderived h.source_listed, table_of_primary hderived]
      cases inventory.stock contents kind with
      | error fault => rfl
      | ok assets => rfl
    | true =>
      have hsources := hkind.resolve_left (by simp [hderived])
      have hderive : inventory.derive (recalled s.known) kind = inventory.table contents kind := by
        rw [table_of_derived hderived]
        apply derive_congr
        intro source hmem
        obtain ⟨assets, hassets⟩ := hsources source hmem
        rw [recalled, hassets, h.stock_eq (AssetKind.sources_primary hmem) hassets, Option.getD_some]
      rw [inventory.assetsOf_run_of_sourcesKnown hsources, hknown, hderive]
      dsimp only
      cases inventory.table contents kind with
      | error fault => rfl
      | ok assets => rfl

/-- Kinds that can be served are answered as they stand in the table, or fail as they do there. -/
theorem Faithful.getAssets_run (hsource : inventory.source = .ofManifests list defaultNames)
    (hfixed : Fixed list start contents) (h : inventory.Faithful list start contents s)
    {kinds : List AssetKind}
    (hkinds : ∀ kind ∈ kinds, kind.isDerived = false ∨ SourcesKnown s.known kind) :
    ((inventory.getAssets kinds).run s).1 = List.flatten <$> kinds.mapM (inventory.table contents) := by
  induction kinds generalizing s with
  | nil => rfl
  | cons kind rest ih =>
    rw [getAssets_cons_run, List.mapM_cons,
      ← h.assetsOf_run hsource hfixed (hkinds kind List.mem_cons_self)]
    rcases hfirst : (inventory.assetsOf kind).run s with ⟨fault | assets, t⟩
    · rfl
    · obtain ⟨hsteps, -⟩ := assetsOf_run_steps hfirst
      have ht : inventory.Faithful list start contents t := h.steps hsource hfixed hsteps
      have hrest := ih ht fun other hother ↦
        (hkinds other (List.mem_cons_of_mem kind hother)).imp_right fun hknown ↦ hknown.later hsteps
      dsimp only
      rcases hlater : (inventory.getAssets rest).run t with ⟨result, u⟩
      rw [hlater] at hrest
      obtain rfl : result = _ := hrest
      cases rest.mapM (inventory.table contents) with
      | error fault => rfl
      | ok others => rfl

theorem Faithful.prefetch_run (hsource : inventory.source = .ofManifests list defaultNames)
    (hfixed : Fixed list start contents) (h : inventory.Faithful list start contents s)
    {kinds : List AssetKind}
    (hkinds : ∀ kind ∈ kinds, kind.isDerived = false ∨ SourcesKnown s.known kind) :
    ((inventory.prefetch kinds).run s).1 = (kinds.mapM (inventory.table contents)).map fun _ ↦ () := by
  rw [prefetch_run_eq_getAssets, h.getAssets_run hsource hfixed hkinds]
  cases kinds.mapM (inventory.table contents) with
  | error fault => rfl
  | ok found => rfl

end

/-! ## Kinds of the assets in the table -/

theorem mem_of_withoutNames {names : List String} {assets others : List Asset}
    (h : withoutNames names assets = .ok others) {asset : Asset} (hasset : asset ∈ others) :
    asset ∈ assets := by
  induction assets generalizing others with
  | nil =>
    cases h
    exact hasset
  | cons first rest ih =>
    obtain ⟨named, -, h⟩ := Traversal.bind_eq_ok h
    obtain ⟨later, hlater, h⟩ := Traversal.bind_eq_ok h
    cases named with
    | true =>
      cases h
      exact List.mem_cons_of_mem first (ih hlater hasset)
    | false =>
      cases h
      rcases List.mem_cons.1 hasset with rfl | hmem
      · exact List.mem_cons_self
      · exact List.mem_cons_of_mem first (ih hlater hmem)

theorem stock_kind {inventory : Inventory σ} {contents : AssetKind → Except Fault (List Value)}
    {kind : AssetKind} {assets : List Asset} (h : inventory.stock contents kind = .ok assets) :
    ∀ asset ∈ assets, asset.kind = kind := by
  intro asset hasset
  obtain ⟨docs, -, h⟩ := Traversal.bind_eq_ok h
  obtain ⟨read, hread, h⟩ := Traversal.bind_eq_ok h
  have hmem : asset ∈ read := by
    unfold wanted at h
    split at h
    · cases h
      exact hasset
    · exact mem_of_withoutNames h hasset
  obtain ⟨doc, -, hdoc⟩ := Traversal.exists_of_mem_mapM hread hmem
  exact Asset.ofManifest_kind hdoc

/-- Every asset in the table stands under its own kind. -/
theorem table_kind {inventory : Inventory σ} {contents : AssetKind → Except Fault (List Value)}
    {kind : AssetKind} {assets : List Asset} (h : inventory.table contents kind = .ok assets) :
    ∀ asset ∈ assets, asset.kind = kind := by
  cases hderived : kind.isDerived with
  | false =>
    rw [table_of_primary hderived] at h
    exact stock_kind h
  | true =>
    rw [table_of_derived hderived] at h
    intro asset hasset
    cases kind with
    | schedulingPair =>
      cases h
      obtain ⟨node, -, hpair⟩ := List.mem_flatMap.1 hasset
      obtain ⟨pod, -, rfl⟩ := List.mem_map.1 hpair
      rfl
    | escalationDependency =>
      obtain ⟨clusterWide, -, h⟩ := Traversal.bind_eq_ok h
      obtain ⟨namespaced, -, h⟩ := Traversal.bind_eq_ok h
      cases h
      obtain ⟨dependency, -, rfl⟩ := List.mem_map.1 hasset
      rfl
    | _ => cases hderived

/-- A fault in the table stands for no assets. -/
theorem kind_of_mem_table {inventory : Inventory σ}
    {contents : AssetKind → Except Fault (List Value)} {kind : AssetKind} {asset : Asset}
    (h : asset ∈ (inventory.table contents kind).toOption.getD []) : asset.kind = kind := by
  cases htable : inventory.table contents kind with
  | error fault =>
    rw [htable] at h
    cases h
  | ok assets =>
    rw [htable] at h
    exact table_kind htable asset h

end Inventory

end ClusterAudit
