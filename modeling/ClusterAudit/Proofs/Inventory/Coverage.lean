import ClusterAudit.Proofs.Inventory.Consistency
import ClusterAudit.Source.Snapshot

/-!
# The kinds that detectors need

The required kinds of detectors are those, and only those, that an inventory can fetch for the kinds at
which they look: a pair needs nodes and pods, a dependency needs the bindings and roles of both scopes
as well.  Once the required kinds are known, whatever is asked of the inventory in between, nothing is
fetched for the kinds of the detectors any more.
-/

namespace ClusterAudit

open Manifest

variable {σ : Type}

namespace Inventory

open SourceM

/-! ## What a step fetches -/

/-- However the step ends, all that it does to the outside is to fetch kinds of a sort. -/
def FetchesOnly {α : Type} (sort : AssetKind → Prop) (x : InventoryM σ α) : Prop :=
  ∀ s, ∃ more : List AssetKind, (∀ kind ∈ more, sort kind) ∧
    (x.run s).2.activities = s.activities ++ more.map .fetched

namespace FetchesOnly

variable {α β : Type} {sort : AssetKind → Prop}

/-- A step that leaves the activities as they are fetches nothing. -/
theorem of_run {x : InventoryM σ α} (h : ∀ s, (x.run s).2.activities = s.activities) :
    FetchesOnly sort x := by
  intro s
  exact ⟨[], List.forall_mem_nil _, by rw [h, List.map_nil, List.append_nil]⟩

protected theorem pure (a : α) : FetchesOnly sort (pure a : InventoryM σ α) :=
  of_run fun _ ↦ rfl

protected theorem lift (result : Except Fault α) :
    FetchesOnly sort (lift result : InventoryM σ α) :=
  of_run fun _ ↦ rfl

protected theorem bind {x : InventoryM σ α} {f : α → InventoryM σ β} (h : FetchesOnly sort x)
    (hf : ∀ a, FetchesOnly sort (f a)) : FetchesOnly sort (x >>= f) := by
  intro s
  obtain ⟨more, hmore, hfirst⟩ := h s
  rw [run_bind]
  rcases hx : x.run s with ⟨fault | a, t⟩
  · rw [hx] at hfirst
    exact ⟨more, hmore, hfirst⟩
  · rw [hx] at hfirst
    obtain ⟨last, hlast, hsecond⟩ := hf a t
    refine ⟨more ++ last, List.forall_mem_append.2 ⟨hmore, hlast⟩, ?_⟩
    dsimp only at hfirst ⊢
    rw [hsecond, hfirst, List.map_append, List.append_assoc]

/-- Remembering assets fetches what loading them fetches. -/
protected theorem remembered {load : InventoryM σ (List Asset)} (kind : AssetKind)
    (h : FetchesOnly sort load) : FetchesOnly sort (remembered kind load) := by
  intro s
  obtain ⟨more, hmore, hload⟩ := h s
  rw [remembered_run]
  cases known? s.known kind with
  | some assets => exact ⟨[], List.forall_mem_nil _, by simp⟩
  | none =>
    refine ⟨more, hmore, ?_⟩
    rw [← hload]
    dsimp only
    rcases load.run s with ⟨_ | _, t⟩
    · rfl
    · rfl

variable (inventory : Inventory σ)

protected theorem primary {kind : AssetKind} (h : sort kind) :
    FetchesOnly sort (inventory.primary kind) := by
  refine FetchesOnly.remembered kind fun s ↦ ⟨[kind], List.forall_mem_singleton.2 h, ?_⟩
  rw [fetchWanted_run]
  rfl

protected theorem resolveKinds (nodes : List Node) (pods : List Pod) {bindingKind roleKind : AssetKind}
    (hbinding : sort bindingKind) (hrole : sort roleKind) :
    FetchesOnly sort (inventory.resolveKinds nodes pods bindingKind roleKind) :=
  (FetchesOnly.primary inventory hbinding).bind fun _ ↦
    (FetchesOnly.primary inventory hrole).bind fun _ ↦ .lift _

/-- Asking for the assets of a kind fetches nothing but the primary kinds behind it. -/
protected theorem assetsOf (kind : AssetKind) :
    FetchesOnly (· ∈ kind.sources) (inventory.assetsOf kind) := by
  cases kind with
  | schedulingPair =>
    refine FetchesOnly.remembered _ ?_
    refine (FetchesOnly.primary inventory (by decide)).bind fun nodes ↦ ?_
    dsimp only
    split
    · exact .pure []
    · exact (FetchesOnly.primary inventory (by decide)).bind fun pods ↦ .pure _
  | escalationDependency =>
    refine FetchesOnly.remembered _ ?_
    refine (FetchesOnly.primary inventory (by decide)).bind fun nodes ↦ ?_
    refine (FetchesOnly.primary inventory (by decide)).bind fun pods ↦ ?_
    refine (FetchesOnly.resolveKinds inventory _ _ (by decide) (by decide)).bind fun clusterWide ↦ ?_
    exact (FetchesOnly.resolveKinds inventory _ _ (by decide) (by decide)).bind fun _ ↦ .pure _
  | _ => exact FetchesOnly.primary inventory List.mem_cons_self

end FetchesOnly

/-! ## What a kind can need -/

/-- With some source, an inventory that knows nothing fetches a kind when it is asked for another. -/
def CanFetch (asked kind : AssetKind) : Prop :=
  ∃ (σ : Type) (inventory : Inventory σ) (start : σ),
    kind ∈ fetchedKinds ((inventory.assetsOf asked).run { source := start }).2.activities

/-- A single node without a name. -/
def oneNode : Snapshot where
  manifests := [(.node, .map [])]

/-- What can be fetched for a kind are the primary kinds behind it. -/
theorem canFetch_iff {asked kind : AssetKind} : CanFetch asked kind ↔ kind ∈ asked.sources := by
  constructor
  · rintro ⟨σ, inventory, start, hkind⟩
    obtain ⟨more, hmore, hactivities⟩ := FetchesOnly.assetsOf inventory asked { source := start }
    have hfetched : fetchedKinds (([] : List Activity) ++ more.map .fetched) = more := by
      simp [fetchedKinds, List.filterMap_map]
    rw [hactivities, hfetched] at hkind
    exact hmore kind hkind
  · intro hkind
    let inventory : Inventory Snapshot := ⟨Snapshot.source fun _ ↦ [], true⟩
    -- There is a node, so that pods are asked for as well.
    have hfetched : ∀ source ∈ asked.sources, source ∈ fetchedKinds
        ((inventory.assetsOf asked).run { source := oneNode }).2.activities := by
      cases asked <;> decide +kernel
    exact ⟨Snapshot, inventory, oneNode, hfetched kind hkind⟩

/-! ## After learning -/

/-- With the primary kinds behind them known, asking for kinds fetches nothing. -/
theorem getAssets_run_of_sourcesKnown (inventory : Inventory σ) {kinds : List AssetKind}
    {s : InventoryState σ} (h : ∀ kind ∈ kinds, SourcesKnown s.known kind) :
    ((inventory.getAssets kinds).run s).2 =
      { s with known := (inventory.compute kinds s.known).2 } := by
  have hlearn := inventory.prefetch_run_of_sourcesKnown h
  rw [prefetch_run_eq_getAssets] at hlearn
  exact congrArg Prod.snd hlearn

/-- A primary kind is required for detectors when one of them looks at it, or looks at a derived kind
for which it can be fetched. -/
theorem mem_requiredKinds_assetKinds {detectors : List Detector} {kind : AssetKind}
    (hprimary : kind ∈ AssetKind.primary) :
    kind ∈ requiredKinds (Detector.assetKinds detectors) ↔
      ∃ detector ∈ detectors, kind ∈ detector.kinds ∨
        ∃ derived ∈ detector.kinds, derived.isDerived = true ∧ CanFetch derived kind := by
  rw [AssetKind.mem_primary_iff] at hprimary
  rw [mem_requiredKinds]
  constructor
  · rintro ⟨asked, hasked, hkind⟩
    obtain ⟨detector, hdetector, hmem⟩ := Detector.mem_assetKinds.1 hasked
    refine ⟨detector, hdetector, ?_⟩
    cases hderived : asked.isDerived with
    | true => exact .inr ⟨asked, hmem, hderived, canFetch_iff.2 hkind⟩
    | false =>
      rw [AssetKind.sources_of_primary hderived, List.mem_singleton] at hkind
      exact .inl (hkind ▸ hmem)
  · rintro ⟨detector, hdetector, hmem | ⟨derived, hmem, -, hfetch⟩⟩
    · refine ⟨kind, Detector.mem_assetKinds.2 ⟨detector, hdetector, hmem⟩, ?_⟩
      rw [AssetKind.sources_of_primary hprimary]
      exact List.mem_cons_self
    · exact ⟨derived, Detector.mem_assetKinds.2 ⟨detector, hdetector, hmem⟩, canFetch_iff.1 hfetch⟩

/-- Once the required kinds of some kinds have been learnt, these kinds can be computed from what is
known, whatever is asked for in between. -/
theorem sourcesKnown_after {inventory : Inventory σ} {kinds : List AssetKind} {s t : InventoryState σ}
    (hlearn : (inventory.prefetch (requiredKinds kinds)).run s = (.ok (), t))
    (requests : List Request) {kind : AssetKind} (hkind : kind ∈ kinds) :
    SourcesKnown (inventory.after requests t).known kind := by
  have hknown := (prefetch_run_steps hlearn).2 () rfl
  have hearlier : SourcesKnown t.known kind := fun source hsource ↦
    hknown source (mem_requiredKinds.2 ⟨kind, hkind, hsource⟩)
  exact hearlier.later (inventory.after_steps requests t)

/-- The kinds of detectors are listed once each, in the order in which they occur first, and the
required kinds are the primary ones that can be fetched for them, once each.  When these have been
learnt, and whatever is asked for after that, asking for kinds of the detectors leaves the source
alone. -/
theorem requiredKinds_cover_fetches (detectors : List Detector) :
    let occurring := detectors.flatMap (·.kinds)
    let kinds := Detector.assetKinds detectors
    let required := requiredKinds kinds
    (kinds.Nodup ∧ (kinds.Pairwise fun kind later ↦ occurring.idxOf kind < occurring.idxOf later) ∧
      ∀ kind, kind ∈ kinds ↔ ∃ detector ∈ detectors, kind ∈ detector.kinds) ∧
    (required.Nodup ∧ (∀ kind ∈ required, kind ∈ AssetKind.primary) ∧
      requiredKinds required = required ∧
      ∀ kind ∈ AssetKind.primary, kind ∈ required ↔ ∃ detector ∈ detectors, kind ∈ detector.kinds ∨
        ∃ derived ∈ detector.kinds, derived.isDerived = true ∧ CanFetch derived kind) ∧
    ∀ (σ : Type) (inventory : Inventory σ) (s t : InventoryState σ),
      (inventory.prefetch required).run s = (.ok (), t) →
      ∀ (requests : List Request) (asked : List AssetKind), (∀ kind ∈ asked, kind ∈ kinds) →
        let before := inventory.after requests t
        let answered := ((inventory.getAssets asked).run before).2
        answered.activities = before.activities ∧ answered.source = before.source := by
  intro occurring kinds required
  refine ⟨⟨?_, ?_, ?_⟩, ⟨?_, ?_, ?_, ?_⟩, ?_⟩
  · exact AssetKind.nodup_distinct _
  · exact AssetKind.distinct_pairwise_idxOf occurring
  · intro kind
    exact Detector.mem_assetKinds
  · exact requiredKinds_nodup kinds
  · intro kind hkind
    exact (AssetKind.mem_primary_iff kind).2 (requiredKinds_primary hkind)
  · exact requiredKinds_requiredKinds kinds
  · intro kind hprimary
    exact mem_requiredKinds_assetKinds hprimary
  · intro σ inventory s t hlearn requests asked hasked before answered
    have hsources : ∀ kind ∈ asked, SourcesKnown before.known kind := fun kind hkind ↦
      sourcesKnown_after hlearn requests (hasked kind hkind)
    have hanswered : answered = _ := inventory.getAssets_run_of_sourcesKnown hsources
    rw [hanswered]
    exact ⟨rfl, rfl⟩

/-- A source that changes with every fetch is fetched from six times and then left alone. -/
theorem requiredKinds_cover_fetches_of_restless :
    let config : AuditConfig := { rbac := some [6], isolation := some [3], podSecurity := some [] }
    let required := requiredKinds (Detector.assetKinds config.detectors)
    let inventory : Inventory Nat := ⟨.ofManifests restless fun _ ↦ [], false⟩
    let learnt := (inventory.prefetch required).run { source := 0 }
    required = [.clusterRoleBinding, .clusterRole, .roleBinding, .role, .node, .pod] ∧
    learnt.1 = .ok () ∧ learnt.2.source = 6 ∧
    ((inventory.getAssets [.schedulingPair, .escalationDependency]).run learnt.2).2.source = 6 := by
  intro config required inventory learnt
  have hlearn : learnt.1 = .ok () := by decide +kernel
  have hsource : learnt.2.source = 6 := by decide +kernel
  have hrun : (inventory.prefetch required).run { source := 0 } = (.ok (), learnt.2) :=
    Prod.ext hlearn rfl
  have hasked : ∀ kind ∈ [AssetKind.schedulingPair, .escalationDependency],
      kind ∈ Detector.assetKinds config.detectors := by decide +kernel
  obtain ⟨-, -, hleft⟩ := requiredKinds_cover_fetches config.detectors
  -- From here on it does not matter how the state was reached.
  clear_value learnt
  obtain ⟨-, hsame⟩ := hleft Nat inventory { source := 0 } learnt.2 hrun [] _ hasked
  exact ⟨by decide +kernel, hlearn, hsource, hsame.trans hsource⟩

end Inventory

end ClusterAudit
