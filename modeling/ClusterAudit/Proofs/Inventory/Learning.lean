import ClusterAudit.Proofs.Inventory.Run

/-!
# What an inventory learns

Learning primary kinds fetches those that are not known, one after another and each once, up to the
first one that cannot be had.  Once the primary kinds behind a kind are known, its assets are
computed from them without another fetch, and asking for known kinds changes nothing.
-/

namespace ClusterAudit

variable {σ : Type}

/-! ## Fetching kinds in a row -/

/-- What fetching some kinds one after another gives, up to the first one that fails. -/
structure Harvest (σ : Type) where
  learnt : Inventory.Knowledge
  /-- The kind that could not be had, and why. -/
  failure : Option (AssetKind × Fault)
  /-- The source after the last fetch. -/
  source : σ

namespace Harvest

/-- The kinds that were fetched, the one that failed last. -/
def fetched (harvest : Harvest σ) : List AssetKind :=
  harvest.learnt.map (·.1) ++ (harvest.failure.map (·.1)).toList

/-- The fault that ended the row, if any. -/
def result (harvest : Harvest σ) : Except Fault Unit :=
  match harvest.failure with
  | none => .ok ()
  | some (_, fault) => .error fault

theorem failure_of_ok {harvest : Harvest σ} (h : harvest.result = .ok ()) : harvest.failure = none := by
  unfold result at h
  cases hfailure : harvest.failure with
  | none => rfl
  | some failure =>
    rw [hfailure] at h
    cases h

theorem failure_of_error {harvest : Harvest σ} {fault : Fault} (h : harvest.result = .error fault) :
    ∃ kind, harvest.failure = some (kind, fault) := by
  unfold result at h
  cases hfailure : harvest.failure with
  | none =>
    rw [hfailure] at h
    cases h
  | some failure =>
    rw [hfailure] at h
    exact ⟨failure.1, congrArg some (Prod.ext rfl (Except.error.inj h))⟩

/-- The kind that failed is the last one fetched. -/
theorem getLast?_fetched {harvest : Harvest σ} {kind : AssetKind} {fault : Fault}
    (h : harvest.failure = some (kind, fault)) : harvest.fetched.getLast? = some kind := by
  rw [fetched, h]
  exact List.getLast?_concat ..

end Harvest

namespace Inventory

open SourceM

variable (inventory : Inventory σ)

/-- Fetches kinds in a row and leaves out the default objects unless they are wanted. -/
def harvest : List AssetKind → σ → Harvest σ
  | [], source => ⟨[], none, source⟩
  | kind :: rest, source =>
    match inventory.load kind source with
    | (.error fault, after) => ⟨[], some (kind, fault), after⟩
    | (.ok assets, after) =>
      let later := harvest rest after
      { later with learnt := (kind, assets) :: later.learnt }

/-- The fetched kinds are the given ones up to the one that failed. -/
theorem harvest_fetched_prefix (kinds : List AssetKind) (source : σ) :
    (inventory.harvest kinds source).fetched <+: kinds := by
  induction kinds generalizing source with
  | nil => exact List.prefix_rfl
  | cons kind rest ih =>
    unfold harvest
    rcases inventory.load kind source with ⟨_ | assets, after⟩
    · exact List.prefix_append [kind] rest
    · exact List.cons_prefix_cons.2 ⟨rfl, ih after⟩

/-- A failure is that of the fetch of its kind. -/
theorem load_of_harvest_failure {kinds : List AssetKind} {source : σ} {kind : AssetKind} {fault : Fault}
    (h : (inventory.harvest kinds source).failure = some (kind, fault)) :
    ∃ reached, (inventory.load kind reached).1 = .error fault := by
  induction kinds generalizing source with
  | nil => cases h
  | cons first rest ih =>
    unfold harvest at h
    rcases hload : inventory.load first source with ⟨other | assets, after⟩
    · rw [hload] at h
      cases h
      exact ⟨source, congrArg Prod.fst hload⟩
    · rw [hload] at h
      exact ih h

/-- Without a failure all given kinds are learnt, in their order. -/
theorem harvest_learnt_kinds {kinds : List AssetKind} {source : σ}
    (h : (inventory.harvest kinds source).failure = none) :
    (inventory.harvest kinds source).learnt.map (·.1) = kinds := by
  induction kinds generalizing source with
  | nil => rfl
  | cons kind rest ih =>
    unfold harvest at h ⊢
    rcases hload : inventory.load kind source with ⟨_ | assets, after⟩
    · rw [hload] at h
      cases h
    · rw [hload] at h
      exact congrArg (kind :: ·) (ih h)

/-- Without a failure all given kinds are fetched. -/
theorem harvest_fetched {kinds : List AssetKind} {source : σ}
    (h : (inventory.harvest kinds source).failure = none) :
    (inventory.harvest kinds source).fetched = kinds := by
  rw [Harvest.fetched, h, inventory.harvest_learnt_kinds h]
  exact List.append_nil kinds

/-- Whether a kind is not known yet. -/
def isUnknown (known : Knowledge) (kind : AssetKind) : Bool :=
  (known? known kind).isNone

/-- When no fetch fails, the kinds are known in the end. -/
theorem known?_append_harvest {kinds : List AssetKind} {known : Knowledge} {source : σ}
    (h : (inventory.harvest (kinds.filter (isUnknown known)) source).failure = none)
    {kind : AssetKind} (hkind : kind ∈ kinds) :
    ∃ assets, known? (known ++ (inventory.harvest (kinds.filter (isUnknown known)) source).learnt) kind
      = some assets := by
  cases hknown : known? known kind with
  | some assets => exact ⟨assets, known?_append_of_some hknown _⟩
  | none =>
    rw [known?_append, hknown, Option.none_or]
    apply known?_of_mem
    rw [inventory.harvest_learnt_kinds h, List.mem_filter]
    exact ⟨hkind, Option.isNone_iff_eq_none.2 hknown⟩

/-- Learning primary kinds fetches the unknown ones in a row. -/
theorem prefetch_run_primary {kinds : List AssetKind}
    (hprimary : ∀ kind ∈ kinds, kind.isDerived = false)
    (hnodup : kinds.Nodup) (s : InventoryState σ) :
    (inventory.prefetch kinds).run s =
      let gained := inventory.harvest (kinds.filter (isUnknown s.known)) s.source
      (gained.result, {
        source := gained.source
        known := s.known ++ gained.learnt
        activities := s.activities ++ gained.fetched.map .fetched }) := by
  induction kinds generalizing s with
  | nil => simp [prefetch, harvest, Harvest.result, Harvest.fetched, run_pure]
  | cons kind rest ih =>
    obtain ⟨hkind, hrest⟩ := List.nodup_cons.1 hnodup
    have hlater := ih (fun other hother ↦ hprimary other (List.mem_cons_of_mem kind hother)) hrest
    rw [prefetch_cons_run, inventory.assetsOf_primary (hprimary kind List.mem_cons_self)]
    cases hknown : known? s.known kind with
    | some assets =>
      rw [inventory.primary_run_known hknown, List.filter_cons_of_neg (by simp [isUnknown, hknown])]
      exact hlater s
    | none =>
      rw [inventory.primary_run_unknown hknown, List.filter_cons_of_pos (by simp [isUnknown, hknown]),
        harvest]
      rcases inventory.load kind s.source with ⟨fault | assets, source⟩
      · simp [Harvest.result, Harvest.fetched, InventoryState.afterFetch]
      -- The kind does not occur again, so the others are as unknown as before.
      · have hsame : rest.filter (isUnknown (s.known ++ [(kind, assets)])) =
            rest.filter (isUnknown s.known) := by
          apply List.filter_congr
          intro other hother
          have hne : kind ≠ other := by
            rintro rfl
            exact hkind hother
          rw [isUnknown, known?_append_of_ne hne, isUnknown]
        dsimp only
        rw [hlater]
        simp [hsame, Harvest.result, Harvest.fetched]

/-! ## Computing derived kinds -/

/-- The known assets of a kind, none when the kind is not known. -/
def recalled (known : Knowledge) (kind : AssetKind) : List Asset :=
  (known? known kind).getD []

/-- The assets of a kind, computed from those of the primary kinds. -/
def derive (stored : AssetKind → List Asset) : AssetKind → Except Fault (List Asset)
  | .schedulingPair =>
    .ok (pairs ((stored .node).filterMap Asset.asNode?) ((stored .pod).filterMap Asset.asPod?))
  | .escalationDependency => do
    let nodes := (stored .node).filterMap Asset.asNode?
    let pods := (stored .pod).filterMap Asset.asPod?
    let accounts := inventory.source.defaultNames .serviceAccount
    let clusterWide ← Escalation.resolve ((stored .clusterRoleBinding).filterMap Asset.asBinding?)
      ((stored .clusterRole).filterMap Asset.asRole?) nodes pods accounts inventory.includeDefaults
    let namespaced ← Escalation.resolve ((stored .roleBinding).filterMap Asset.asBinding?)
      ((stored .role).filterMap Asset.asRole?) nodes pods accounts inventory.includeDefaults
    return (clusterWide ++ namespaced).map .escalationDependency
  | kind => .ok (stored kind)

/-- Whether all primary kinds behind a kind are known. -/
def SourcesKnown (known : Knowledge) (kind : AssetKind) : Prop :=
  ∀ source ∈ kind.sources, ∃ assets, known? known source = some assets

theorem primary_run_recalled {kind : AssetKind} {s : InventoryState σ}
    (h : ∃ assets, known? s.known kind = some assets) :
    (inventory.primary kind).run s = (.ok (recalled s.known kind), s) := by
  obtain ⟨assets, hassets⟩ := h
  rw [inventory.primary_run_known hassets, recalled, hassets, Option.getD_some]

theorem derivePairs_run {s : InventoryState σ} (h : SourcesKnown s.known .schedulingPair) :
    inventory.derivePairs.run s = (inventory.derive (recalled s.known) .schedulingPair, s) := by
  have hnode := inventory.primary_run_recalled (h .node (by decide))
  have hpod := inventory.primary_run_recalled (h .pod (by decide))
  rw [derivePairs, run_bind_of_ok hnode, derive]
  dsimp only
  split
  · rename_i hempty
    rw [List.isEmpty_iff.1 hempty]
    rfl
  · rw [run_bind_of_ok hpod]
    rfl

theorem resolveKinds_run {bindingKind roleKind : AssetKind} {s : InventoryState σ}
    (hbindings : ∃ assets, known? s.known bindingKind = some assets)
    (hroles : ∃ assets, known? s.known roleKind = some assets) (nodes : List Node) (pods : List Pod) :
    (inventory.resolveKinds nodes pods bindingKind roleKind).run s =
      (Escalation.resolve ((recalled s.known bindingKind).filterMap Asset.asBinding?)
        ((recalled s.known roleKind).filterMap Asset.asRole?) nodes pods
        (inventory.source.defaultNames .serviceAccount) inventory.includeDefaults, s) := by
  rw [resolveKinds, run_bind_of_ok (inventory.primary_run_recalled hbindings),
    run_bind_of_ok (inventory.primary_run_recalled hroles)]
  rfl

theorem deriveDependencies_run {s : InventoryState σ}
    (h : SourcesKnown s.known .escalationDependency) :
    inventory.deriveDependencies.run s =
      (inventory.derive (recalled s.known) .escalationDependency, s) := by
  rw [deriveDependencies, run_bind_of_ok (inventory.primary_run_recalled (h .node (by decide))),
    run_bind_of_ok (inventory.primary_run_recalled (h .pod (by decide))), run_bind,
    inventory.resolveKinds_run (h .clusterRoleBinding (by decide)) (h .clusterRole (by decide)), derive]
  cases Escalation.resolve _ _ _ _ _ _ with
  | error fault => rfl
  | ok clusterWide =>
    dsimp only
    rw [run_bind,
      inventory.resolveKinds_run (h .roleBinding (by decide)) (h .role (by decide))]
    cases Escalation.resolve _ _ _ _ _ _ with
    | error fault => rfl
    | ok namespaced => rfl

/-- With its primary kinds known, a kind is asked for without a fetch, and computed at most once. -/
theorem assetsOf_run_of_sourcesKnown {kind : AssetKind} {s : InventoryState σ}
    (h : SourcesKnown s.known kind) :
    (inventory.assetsOf kind).run s =
      match known? s.known kind with
      | some assets => (.ok assets, s)
      | none =>
        match inventory.derive (recalled s.known) kind with
        | .ok assets => (.ok assets, s.knowing kind assets)
        | .error fault => (.error fault, s) := by
  cases hderived : kind.isDerived with
  | false =>
    have hself : kind ∈ kind.sources := by
      rw [AssetKind.sources_of_primary hderived]
      exact List.mem_cons_self
    obtain ⟨assets, hassets⟩ := h kind hself
    rw [inventory.assetsOf_primary hderived, inventory.primary_run_known hassets, hassets]
  | true =>
    cases kind with
    | schedulingPair =>
      rw [assetsOf, remembered_run, inventory.derivePairs_run h]
      cases known? s.known .schedulingPair with
      | some assets => rfl
      | none => rfl
    | escalationDependency =>
      rw [assetsOf, remembered_run, inventory.deriveDependencies_run h]
      cases known? s.known .escalationDependency with
      | some assets => rfl
      | none =>
        dsimp only
        cases inventory.derive (recalled s.known) .escalationDependency with
        | error fault => rfl
        | ok assets => rfl
    | _ => cases hderived

/-- Computes kinds in a row, each from the primary kinds behind it, up to the first one that fails. -/
def compute : List AssetKind → Knowledge → Except Fault Unit × Knowledge
  | [], known => (.ok (), known)
  | kind :: rest, known =>
    match known? known kind with
    | some _ => compute rest known
    | none =>
      match inventory.derive (recalled known) kind with
      | .error fault => (.error fault, known)
      | .ok assets => compute rest (known ++ [(kind, assets)])

theorem SourcesKnown.append {known : Knowledge} {kind : AssetKind} (h : SourcesKnown known kind)
    (more : Knowledge) : SourcesKnown (known ++ more) kind := by
  intro source hsource
  obtain ⟨assets, hassets⟩ := h source hsource
  exact ⟨assets, known?_append_of_some hassets more⟩

/-- With the primary kinds behind them known, kinds are learnt without a fetch. -/
theorem prefetch_run_of_sourcesKnown {kinds : List AssetKind} {s : InventoryState σ}
    (h : ∀ kind ∈ kinds, SourcesKnown s.known kind) :
    (inventory.prefetch kinds).run s =
      ((inventory.compute kinds s.known).1,
        { s with known := (inventory.compute kinds s.known).2 }) := by
  induction kinds generalizing s with
  | nil => rfl
  | cons kind rest ih =>
    have hrest : ∀ other ∈ rest, SourcesKnown s.known other :=
      fun other hother ↦ h other (List.mem_cons_of_mem kind hother)
    rw [prefetch_cons_run, inventory.assetsOf_run_of_sourcesKnown (h kind List.mem_cons_self), compute]
    cases known? s.known kind with
    | some assets => exact ih hrest
    | none =>
      dsimp only
      cases inventory.derive (recalled s.known) kind with
      | error fault => rfl
      | ok assets =>
        dsimp only
        rw [ih (s := s.knowing kind assets) fun other hother ↦ (hrest other hother).append _]
        rfl

/-- Computing kinds forgets nothing. -/
theorem known?_compute_of_some {known : Knowledge} {kind : AssetKind} {assets : List Asset}
    (h : known? known kind = some assets) (kinds : List AssetKind) :
    known? (inventory.compute kinds known).2 kind = some assets := by
  induction kinds generalizing known with
  | nil => exact h
  | cons other rest ih =>
    unfold compute
    split
    · exact ih h
    · split
      · exact h
      · exact ih (known?_append_of_some h _)

/-- When nothing fails, all the kinds are known in the end. -/
theorem known?_compute_of_ok {kinds : List AssetKind} {known : Knowledge}
    (h : (inventory.compute kinds known).1 = .ok ()) :
    ∀ kind ∈ kinds, ∃ assets, known? (inventory.compute kinds known).2 kind = some assets := by
  induction kinds generalizing known with
  | nil =>
    intro kind hkind
    cases hkind
  | cons first rest ih =>
    intro kind hkind
    unfold compute at h ⊢
    split at h
    · rename_i assets hassets
      rcases List.mem_cons.1 hkind with rfl | hrest
      · exact ⟨assets, inventory.known?_compute_of_some hassets rest⟩
      · exact ih h kind hrest
    · rename_i hunknown
      split at h
      · cases h
      · rename_i assets hassets
        rcases List.mem_cons.1 hkind with rfl | hrest
        · exact ⟨assets, inventory.known?_compute_of_some (known?_append_self hunknown assets) rest⟩
        · exact ih h kind hrest

/-! ## Asking for known kinds -/

theorem assetsOf_run_known {kind : AssetKind} {s : InventoryState σ} {assets : List Asset}
    (h : known? s.known kind = some assets) : (inventory.assetsOf kind).run s = (.ok assets, s) := by
  cases kind with
  | schedulingPair => rw [assetsOf, remembered_run, h]
  | escalationDependency => rw [assetsOf, remembered_run, h]
  | _ => exact inventory.primary_run_known h

theorem getAssets_run_of_known {kinds : List AssetKind} {s : InventoryState σ}
    (h : ∀ kind ∈ kinds, ∃ assets, known? s.known kind = some assets) :
    (inventory.getAssets kinds).run s = (.ok (kinds.flatMap (recalled s.known)), s) := by
  induction kinds with
  | nil => rfl
  | cons kind rest ih =>
    obtain ⟨assets, hassets⟩ := h kind List.mem_cons_self
    have hrest := ih fun other hother ↦ h other (List.mem_cons_of_mem kind hother)
    rw [getAssets_cons_run, inventory.assetsOf_run_known hassets]
    dsimp only
    rw [hrest, List.flatMap_cons, recalled, hassets, Option.getD_some]

end Inventory

end ClusterAudit
