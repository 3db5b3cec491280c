import ClusterAudit.Proofs.Inventory.Log
import ClusterAudit.Proofs.Source.Listing

/-!
# Answers from one state of the cluster

An inventory may be asked for anything in any order, its source may give other assets at every
fetch, and any fetch may fail.  Still all answers agree with one assignment of assets to kinds, in
which the derived kinds are made of the primary ones.
-/

namespace ClusterAudit

open Manifest

variable {σ : Type}

/-! ## Assets of one kind -/

theorem map_filterMap_eq_self {β : Type} {f : Asset → Option β} {g : β → Asset} {assets : List Asset}
    (h : ∀ asset ∈ assets, (f asset).map g = some asset) : (assets.filterMap f).map g = assets := by
  induction assets with
  | nil => rfl
  | cons asset rest ih =>
    have hrest := ih fun other hother ↦ h other (List.mem_cons_of_mem asset hother)
    obtain ⟨b, hb, hasset⟩ := Option.map_eq_some_iff.1 (h asset List.mem_cons_self)
    rw [List.filterMap_cons_some hb, List.map_cons, hrest, hasset]

theorem Role.kind_eq_or (role : Role) : role.kind = .role ∨ role.kind = .clusterRole := by
  unfold Role.kind
  cases role.scope with
  | namespaced => exact .inl rfl
  | clusterWide => exact .inr rfl

theorem RoleBinding.kind_eq_or (binding : RoleBinding) :
    binding.kind = .roleBinding ∨ binding.kind = .clusterRoleBinding := by
  unfold RoleBinding.kind
  cases binding.scope with
  | namespaced => exact .inl rfl
  | clusterWide => exact .inr rfl

namespace Asset

/-- The shape of an asset follows from its kind. -/
theorem shape_of_kind (asset : Asset) :
    (asset.kind = .node → asset.asNode?.map .node = some asset) ∧
    (asset.kind = .pod → asset.asPod?.map .pod = some asset) ∧
    (asset.kind = .role ∨ asset.kind = .clusterRole → asset.asRole?.map .role = some asset) ∧
    (asset.kind = .roleBinding ∨ asset.kind = .clusterRoleBinding →
      asset.asBinding?.map .binding = some asset) := by
  cases asset with
  | role r =>
    have h : (Asset.role r).kind = .role ∨ (Asset.role r).kind = .clusterRole := r.kind_eq_or
    rcases h with h | h
    · simp [h, asRole?]
    · simp [h, asRole?]
  | binding b =>
    have h : (Asset.binding b).kind = .roleBinding ∨ (Asset.binding b).kind = .clusterRoleBinding :=
      b.kind_eq_or
    rcases h with h | h
    · simp [h, asBinding?]
    · simp [h, asBinding?]
  | _ => simp [kind, asNode?, asPod?]

end Asset

theorem AssetSource.ofManifests_givesKinds (list : AssetKind → SourceM σ (List Value))
    (defaultNames : AssetKind → List String) :
    (AssetSource.ofManifests list defaultNames).GivesKinds := by
  intro kind state assets h asset hasset
  cases hkind : kind.isDerived with
  | true =>
    rw [AssetSource.ofManifests_fetch_derived list defaultNames hkind] at h
    cases h
  | false =>
    rw [AssetSource.ofManifests_fetch_run list defaultNames hkind] at h
    obtain ⟨docs, -, h⟩ := Traversal.bind_eq_ok h
    obtain ⟨doc, -, hdoc⟩ := Traversal.exists_of_mem_mapM h hasset
    exact Asset.ofManifest_kind hdoc

namespace Inventory

open SourceM

/-! ## Requests -/

/-- A request to an inventory, to answer kinds or only to learn them. -/
inductive Request where
  | get (kinds : List AssetKind)
  | prefetch (kinds : List AssetKind)

def Request.kinds : Request → List AssetKind
  | get kinds => kinds
  | prefetch kinds => kinds

variable (inventory : Inventory σ)

/-- Serves a request; learning answers nothing. -/
def serve : Request → InventoryM σ (List Asset)
  | .get kinds => inventory.getAssets kinds
  | .prefetch kinds => do
    inventory.prefetch kinds
    return []

/-- The state after requests one after another, of which any may have failed. -/
def after (requests : List Request) (s : InventoryState σ) : InventoryState σ :=
  requests.foldl (fun t request ↦ ((inventory.serve request).run t).2) s

/-- Any request has the effects of asking for its kinds, and fails when that does. -/
theorem serve_run (request : Request) (s : InventoryState σ) :
    ((inventory.serve request).run s).2 = ((inventory.getAssets request.kinds).run s).2 ∧
      ∀ fault, ((inventory.serve request).run s).1 = .error fault →
        ((inventory.getAssets request.kinds).run s).1 = .error fault := by
  cases request with
  | get kinds => exact ⟨rfl, fun fault h ↦ h⟩
  | prefetch kinds =>
    unfold serve
    rw [run_bind, prefetch_run_eq_getAssets, Request.kinds]
    rcases (inventory.getAssets kinds).run s with ⟨fault | answer, t⟩
    · refine ⟨rfl, ?_⟩
      intro other h
      cases h
      rfl
    · refine ⟨rfl, ?_⟩
      intro fault h
      cases h

theorem after_append (earlier later : List Request) (s : InventoryState σ) :
    inventory.after (earlier ++ later) s = inventory.after later (inventory.after earlier s) :=
  List.foldl_append

/-- Requests take steps. -/
theorem after_steps (requests : List Request) (s : InventoryState σ) :
    inventory.Steps (fun _ ↦ True) s (inventory.after requests s) := by
  induction requests generalizing s with
  | nil => exact .refl
  | cons request rest ih =>
    have hfirst : inventory.Steps (fun _ ↦ True) s ((inventory.serve request).run s).2 := by
      rw [(inventory.serve_run request s).1]
      exact (getAssets_run_steps rfl).1
    exact hfirst.trans (ih _)

/-! ## Consistency -/

/-- What holds of an inventory that has started with a source, whatever it was asked for. -/
structure Consistent (start : σ) (s : InventoryState σ) : Prop where
  /-- A primary kind is known exactly when one of its fetches has succeeded, and then as the assets
  that this fetch has given, without default objects. -/
  known_iff : ∀ kind, kind.isDerived = false → ∀ assets, known? s.known kind = some assets ↔
    ∃ answer, (kind, .ok answer) ∈ inventory.log start s ∧ inventory.kept kind answer = assets
  /-- A kind is fetched again only after fetches in vain, so one fetch of it succeeds at most. -/
  again : (inventory.log start s).Pairwise fun earlier later ↦
    earlier.1 = later.1 → ∃ fault, earlier.2 = .error fault
  /-- A primary kind that is not known is fetched when it is asked for next. -/
  fetch_unknown : ∀ kind, kind.isDerived = false → known? s.known kind = none →
    ∀ request rest, request.kinds = kind :: rest → ∃ more,
      ((inventory.serve request).run s).2.activities = s.activities ++ .fetched kind :: more
  /-- Asking for known kinds changes nothing. -/
  ask_known : ∀ kinds, (∀ kind ∈ kinds, ∃ assets, known? s.known kind = some assets) →
    (inventory.getAssets kinds).run s = (.ok (kinds.flatMap (recalled s.known)), s)
  /-- The pairs are those of the nodes and pods that are known, node by node. -/
  pairs : ∀ assets, known? s.known .schedulingPair = some assets →
    ∃ nodes : List Node, known? s.known .node = some (nodes.map .node) ∧
      (nodes = [] ∧ assets = [] ∨ ∃ pods : List Pod, known? s.known .pod = some (pods.map .pod) ∧
        assets = nodes.flatMap fun node ↦ pods.map fun pod ↦ .schedulingPair ⟨some node, some pod⟩)
  /-- The dependencies are resolved from the bindings, roles, nodes and pods that are known, the
  cluster-wide ones first. -/
  dependencies : ∀ assets, known? s.known .escalationDependency = some assets →
    ∃ (wideBindings bindings : List RoleBinding) (wideRoles roles : List Role) (nodes : List Node)
      (pods : List Pod),
      known? s.known .clusterRoleBinding = some (wideBindings.map .binding) ∧
      known? s.known .clusterRole = some (wideRoles.map .role) ∧
      known? s.known .roleBinding = some (bindings.map .binding) ∧
      known? s.known .role = some (roles.map .role) ∧
      known? s.known .node = some (nodes.map .node) ∧
      known? s.known .pod = some (pods.map .pod) ∧
      ∃ clusterWide namespaced,
        Escalation.resolve wideBindings wideRoles nodes pods
          (inventory.source.defaultNames .serviceAccount) inventory.includeDefaults = .ok clusterWide ∧
        Escalation.resolve bindings roles nodes pods
          (inventory.source.defaultNames .serviceAccount) inventory.includeDefaults = .ok namespaced ∧
        assets = (clusterWide ++ namespaced).map .escalationDependency
  /-- A request that fails forgets nothing; the first of its kinds that is not known has failed. -/
  fail : ∀ request fault, ((inventory.serve request).run s).1 = .error fault →
    s.known <+: ((inventory.serve request).run s).2.known ∧
    ∃ before kind rest, request.kinds = before ++ kind :: rest ∧
      (∀ earlier ∈ before, ∃ assets,
        known? ((inventory.serve request).run s).2.known earlier = some assets) ∧
      known? ((inventory.serve request).run s).2.known kind = none

variable {inventory} {start : σ} {s : InventoryState σ}

theorem serve_fetches_unknown {kind : AssetKind} (hprimary : kind.isDerived = false)
    (hunknown : known? s.known kind = none) {request : Request} {rest : List AssetKind}
    (hrequest : request.kinds = kind :: rest) :
    ∃ more,
      ((inventory.serve request).run s).2.activities = s.activities ++ .fetched kind :: more := by
  have hfetched := inventory.primary_run_unknown_activities hunknown
  rw [(inventory.serve_run request s).1, hrequest, getAssets_cons_run,
    inventory.assetsOf_primary hprimary]
  rcases hfirst : (inventory.primary kind).run s with ⟨fault | assets, u⟩
  · rw [hfirst] at hfetched
    exact ⟨[], hfetched⟩
  · rw [hfirst] at hfetched
    dsimp only at hfetched ⊢
    rcases hrest : (inventory.getAssets rest).run u with ⟨result, v⟩
    obtain ⟨more, hmore⟩ := (getAssets_run_steps hrest).1.prefix_activities
    refine ⟨more, ?_⟩
    rw [hfetched, List.append_assoc] at hmore
    cases result with
    | error fault => exact hmore.symm
    | ok others => exact hmore.symm

/-- The known assets of a kind, of which all have the shape that the kind says. -/
theorem Recorded.exists_map (h : inventory.Recorded start s) (hkinds : inventory.source.GivesKinds)
    {kind : AssetKind} (hprimary : kind.isDerived = false) {β : Type} {f : Asset → Option β}
    {g : β → Asset} (hshape : ∀ asset : Asset, asset.kind = kind → (f asset).map g = some asset)
    {assets : List Asset} (hassets : known? s.known kind = some assets) :
    known? s.known kind = some ((assets.filterMap f).map g) := by
  rw [hassets, map_filterMap_eq_self fun asset hasset ↦
    hshape asset (h.known_kind hkinds hprimary hassets asset hasset)]

/-- An account of what is known is all that consistency needs. -/
theorem Recorded.consistent (h : inventory.Recorded start s) (hkinds : inventory.source.GivesKinds) :
    inventory.Consistent start s where
  known_iff := h.known_iff
  again := h.again
  fetch_unknown kind hprimary hunknown request rest hrequest :=
    serve_fetches_unknown hprimary hunknown hrequest
  ask_known kinds hknown := inventory.getAssets_run_of_known hknown
  pairs assets hassets := by
    cases h.derivation .schedulingPair rfl assets hassets with
    | @noPairs nodes hnodes hempty =>
      have hnodes := h.exists_map hkinds rfl (fun asset ↦ asset.shape_of_kind.1) hnodes
      rw [hempty] at hnodes
      exact ⟨[], hnodes, .inl ⟨rfl, rfl⟩⟩
    | pairs hnodes hpods =>
      exact ⟨_, h.exists_map hkinds rfl (fun asset ↦ asset.shape_of_kind.1) hnodes, .inr
        ⟨_, h.exists_map hkinds rfl (fun asset ↦ asset.shape_of_kind.2.1) hpods, rfl⟩⟩
  dependencies assets hassets := by
    cases h.derivation .escalationDependency rfl assets hassets with
    | dependencies hwideBindings hwideRoles hbindings hroles hnodes hpods hclusterWide hnamespaced =>
      exact ⟨_, _, _, _, _, _,
        h.exists_map hkinds rfl (fun asset hkind ↦ asset.shape_of_kind.2.2.2 (.inr hkind)) hwideBindings,
        h.exists_map hkinds rfl (fun asset hkind ↦ asset.shape_of_kind.2.2.1 (.inr hkind)) hwideRoles,
        h.exists_map hkinds rfl (fun asset hkind ↦ asset.shape_of_kind.2.2.2 (.inl hkind)) hbindings,
        h.exists_map hkinds rfl (fun asset hkind ↦ asset.shape_of_kind.2.2.1 (.inl hkind)) hroles,
        h.exists_map hkinds rfl (fun asset ↦ asset.shape_of_kind.1) hnodes,
        h.exists_map hkinds rfl (fun asset ↦ asset.shape_of_kind.2.1) hpods,
        _, _, hclusterWide, hnamespaced, rfl⟩
  fail request fault hfault := by
    obtain ⟨hstate, herror⟩ := inventory.serve_run request s
    rcases hget : (inventory.getAssets request.kinds).run s with ⟨result, t⟩
    obtain ⟨hsteps, hanswered⟩ := getAssets_run_steps hget
    rw [hget] at hstate herror
    rw [show result = .error fault from herror fault hfault] at hanswered
    rw [hstate]
    exact ⟨hsteps.prefix_known, hanswered⟩

theorem Recorded.after (hnames : inventory.source.GivesNames) (h : inventory.Recorded start s)
    (requests : List Request) : inventory.Recorded start (inventory.after requests s) :=
  (inventory.after_steps requests s).invariant (fun _ _ _ hstep hs ↦ hs.step hnames hstep) h

/-- However the manifests change between fetches and whichever fetches fail, after any requests what
is known is consistent, what was known on the way is still known, and every answer given on the way
is made of what is known in the end. -/
theorem requests_answered_consistently (list : AssetKind → SourceM σ (List Value))
    (defaultNames : AssetKind → List String) (includeDefaults : Bool) (start : σ)
    (hnames : (AssetSource.ofManifests list defaultNames).GivesNames) (requests : List Request) :
    let inventory : Inventory σ := ⟨.ofManifests list defaultNames, includeDefaults⟩
    let s := inventory.after requests { source := start }
    inventory.Consistent start s ∧
    ∀ earlier later, requests = earlier ++ later →
      let before := inventory.after earlier { source := start }
      (∀ kind assets, known? before.known kind = some assets → known? s.known kind = some assets) ∧
      ∀ kinds rest answer, later = .get kinds :: rest →
        ((inventory.getAssets kinds).run before).1 = .ok answer →
        (∀ kind ∈ kinds, ∃ assets, known? s.known kind = some assets) ∧
          answer = kinds.flatMap (recalled s.known) := by
  intro inventory s
  have hrecorded : inventory.Recorded start s := Recorded.initial.after hnames requests
  refine ⟨hrecorded.consistent (AssetSource.ofManifests_givesKinds list defaultNames), ?_⟩
  rintro earlier later rfl before
  have hlater : s = inventory.after later before := inventory.after_append earlier later _
  refine ⟨?_, ?_⟩
  · intro kind assets hknown
    rw [hlater]
    exact (inventory.after_steps later before).knows hknown
  · rintro kinds rest answer rfl hanswer
    rcases hget : (inventory.getAssets kinds).run before with ⟨result, t⟩
    obtain ⟨-, hanswered⟩ := getAssets_run_steps hget
    obtain rfl : result = .ok answer := by
      rw [← hanswer, hget]
    have hrest : s = inventory.after rest t := by
      rw [hlater]
      exact congrArg (inventory.after rest) (congrArg Prod.snd hget)
    rw [hrest]
    exact hanswered.later (inventory.after_steps rest t)

/-- A source that fails at first and then lists another node at every fetch, and nothing else. -/
def restless (kind : AssetKind) : SourceM Nat (List Value) :=
  ExceptT.mk fun count ↦
    (if kind ≠ .node then .ok []
      else if count = 0 then .error (.notFetched .node "busy")
      else .ok [.map [(.text "metadata", .map [(.text "name", .text (toString count))])]], count + 1)

theorem restless_givesNames (defaultNames : AssetKind → List String) :
    (AssetSource.ofManifests restless defaultNames).GivesNames := by
  intro kind count assets h asset hasset
  cases kind with
  | node =>
    cases count with
    | zero => cases h
    | succ n =>
      have hone : assets = [.node ⟨.text (toString (n + 1)), [], []⟩] := by
        cases h
        rfl
      rw [hone] at hasset
      rw [List.mem_singleton.1 hasset]
      exact ⟨_, rfl, .text _⟩
  | schedulingPair | escalationDependency => cases h
  | _ =>
    cases h
    cases hasset

/-- The pairs are asked for in vain, then the node of the second fetch is kept. -/
theorem restless_answered_consistently :
    let inventory : Inventory Nat := ⟨.ofManifests restless fun _ ↦ [], false⟩
    let requests : List Request :=
      [.get [.schedulingPair], .get [.node, .pod], .prefetch [.schedulingPair]]
    let s := inventory.after requests { source := 0 }
    inventory.Consistent 0 s ∧
    s.known = [(.node, [.node ⟨.text "1", [], []⟩]), (.pod, []), (.schedulingPair, [])] ∧
    (inventory.log 0 s).map (·.1) = [.node, .node, .pod] := by
  intro inventory requests s
  obtain ⟨hconsistent, -⟩ := requests_answered_consistently restless (fun _ ↦ []) false 0
    (restless_givesNames _) requests
  exact ⟨hconsistent, by decide +kernel, by decide +kernel⟩

end Inventory

end ClusterAudit
