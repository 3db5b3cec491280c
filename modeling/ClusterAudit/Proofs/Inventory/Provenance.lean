import ClusterAudit.Proofs.Escalation.Reference
import ClusterAudit.Proofs.Inventory.Consistency
import ClusterAudit.Proofs.Inventory.ReadOff

/-!
# Where the role of a dependency comes from

Whatever an inventory was asked for, what it knows of a primary kind are assets of this kind, and
what it knows of a derived kind is made of the primary kinds that it knows.  So the role of every
known dependency is found among the known roles, in the scope of its binding.
-/

namespace ClusterAudit

open Manifest

variable {σ : Type}

namespace Inventory

open SourceM Traversal

/-! ## Known assets -/

/-- The known assets of primary kinds are of these kinds, and those of derived kinds are derived. -/
structure Sound (inventory : Inventory σ) (s : InventoryState σ) : Prop where
  kind_eq : ∀ kind, kind.isDerived = false → ∀ assets, known? s.known kind = some assets →
    ∀ asset ∈ assets, asset.kind = kind
  derivation : ∀ kind, kind.isDerived = true → ∀ assets, known? s.known kind = some assets →
    inventory.Derivation s.known kind assets

variable {inventory : Inventory σ} {s t : InventoryState σ} {kind : AssetKind}

theorem load_kind (hkinds : inventory.source.GivesKinds) {state after : σ} {assets : List Asset}
    (h : inventory.load kind state = (.ok assets, after)) : ∀ asset ∈ assets, asset.kind = kind := by
  intro asset hasset
  obtain ⟨hresult, -⟩ := Prod.mk.inj h
  obtain ⟨answer, hanswer, hwanted⟩ := bind_eq_ok hresult
  rw [inventory.eq_kept_of_wanted hwanted] at hasset
  exact hkinds kind state answer hanswer asset (inventory.mem_of_mem_kept hasset)

/-- Learning a kind that was not known keeps what is derived. -/
theorem Sound.knowing (h : inventory.Sound s) (hunknown : known? s.known kind = none)
    {assets : List Asset} {source : σ} {activities : List Activity}
    (hkind : kind.isDerived = false → ∀ asset ∈ assets, asset.kind = kind)
    (hderivation : kind.isDerived = true → inventory.Derivation s.known kind assets) :
    inventory.Sound ⟨source, s.known ++ [(kind, assets)], activities⟩ := by
  refine ⟨?_, ?_⟩
  · intro other hother others hothers
    dsimp only at hothers
    by_cases hsame : kind = other
    · subst hsame
      rw [known?_append_self hunknown] at hothers
      rw [← Option.some.inj hothers]
      exact hkind hother
    · rw [known?_append_of_ne hsame] at hothers
      exact h.kind_eq other hother others hothers
  · intro other hother others hothers
    dsimp only at hothers
    by_cases hsame : kind = other
    · subst hsame
      rw [known?_append_self hunknown] at hothers
      rw [← Option.some.inj hothers]
      exact (hderivation hother).append _
    · rw [known?_append_of_ne hsame] at hothers
      exact (h.derivation other hother others hothers).append _

theorem Sound.step (hkinds : inventory.source.GivesKinds) (h : inventory.Sound s)
    (hstep : inventory.Step s kind t) : inventory.Sound t := by
  cases hstep with
  | fetched hprimary hunknown hload =>
    refine h.knowing hunknown (fun _ ↦ load_kind hkinds hload) fun hderived ↦ ?_
    rw [hprimary] at hderived
    cases hderived
  | failed => exact ⟨h.kind_eq, h.derivation⟩
  | derived hunknown hassets =>
    refine h.knowing hunknown (fun hprimary ↦ ?_) fun _ ↦ hassets
    rw [hassets.isDerived] at hprimary
    cases hprimary

/-- Whatever was asked for, what is known is sound. -/
theorem sound_after (hkinds : inventory.source.GivesKinds) (start : σ) (requests : List Request) :
    inventory.Sound (inventory.after requests { source := start }) := by
  have hstart : inventory.Sound { source := start } := by
    refine ⟨?_, ?_⟩
    · intro kind _ assets hassets
      cases hassets
    · intro kind _ assets hassets
      cases hassets
  exact (inventory.after_steps requests _).invariant (fun _ _ _ hstep hs ↦ hs.step hkinds hstep) hstart

/-! ## Serving a kind -/

/-- A kind is served by learning its primary kinds and then asking for it. -/
def serving (kind : AssetKind) : List Request :=
  [.prefetch kind.sources, .get [kind]]

section

variable {list : AssetKind → SourceM σ (List Value)} {defaultNames : AssetKind → List String}
  {start : σ} {contents : AssetKind → Except Fault (List Value)}
  (hsource : inventory.source = .ofManifests list defaultNames) (hfixed : Fixed list start contents)
  (htable : ∀ kind, inventory.table contents kind = .ok (inventory.readOffStock contents kind))

include hsource hfixed htable

theorem known_after_serve (h : inventory.Faithful list start contents s) (request : Request)
    (hkinds : ∀ kind ∈ request.kinds, kind.isDerived = false ∨ SourcesKnown s.known kind) :
    inventory.Faithful list start contents ((inventory.serve request).run s).2 ∧
      inventory.Steps (fun _ ↦ True) s ((inventory.serve request).run s).2 ∧
      ∀ kind ∈ request.kinds, ∃ assets,
        known? ((inventory.serve request).run s).2.known kind = some assets := by
  have hresult := h.getAssets_run hsource hfixed hkinds
  rw [mapM_eq_ok_map fun kind _ ↦ htable kind] at hresult
  rw [(inventory.serve_run request s).1]
  rcases hget : (inventory.getAssets request.kinds).run s with ⟨result, t⟩
  rw [hget] at hresult
  obtain ⟨hsteps, hanswered⟩ := getAssets_run_steps hget
  rw [show result = .ok _ from hresult] at hanswered
  exact ⟨h.steps hsource hfixed hsteps, hsteps, hanswered.1⟩

/-- A kind that was served and its primary kinds are known as they are read off the stock. -/
theorem known_after_serving (kind : AssetKind) :
    ∀ other ∈ kind :: kind.sources,
      known? (inventory.after (serving kind) { source := start }).known other =
        some (inventory.readOffStock contents other) := by
  have hfresh : inventory.Faithful list start contents { source := start } :=
    ⟨.start, fun _ _ hknown ↦ nomatch hknown⟩
  obtain ⟨hlearnt, -, hsources⟩ := known_after_serve hsource hfixed htable hfresh
    (.prefetch kind.sources) fun source hmem ↦ .inl (AssetKind.sources_primary hmem)
  obtain ⟨hserved, hsteps, hkinds⟩ := known_after_serve hsource hfixed htable hlearnt (.get [kind])
    fun other hmem ↦ .inr (List.mem_singleton.1 hmem ▸ hsources)
  intro other hother
  have hknown : ∃ assets,
      known? (inventory.after (serving kind) { source := start }).known other = some assets := by
    rcases List.mem_cons.1 hother with rfl | hmem
    · exact hkinds other List.mem_cons_self
    · obtain ⟨assets, hassets⟩ := hsources other hmem
      exact ⟨assets, hsteps.knows hassets⟩
  obtain ⟨assets, hassets⟩ := hknown
  rw [hassets, eq_readOffStock_of_table (hserved.known_eq other assets hassets)]

end

/-! ## Roles of dependencies -/

section

variable (h : inventory.Sound s)

include h

/-- The known roles of a kind, all in the scope of this kind. -/
theorem Sound.exists_roles (scope : RoleScope) {assets : List Asset}
    (hassets : known? s.known scope.roleKind = some assets) :
    known? s.known scope.roleKind = some ((assets.filterMap Asset.asRole?).map .role) ∧
      ∀ role ∈ assets.filterMap Asset.asRole?, role.scope = scope := by
  have hprimary : scope.roleKind.isDerived = false := by cases scope <;> rfl
  have hkinds := h.kind_eq scope.roleKind hprimary assets hassets
  have hshape : ∀ asset ∈ assets, asset.asRole?.map .role = some asset := by
    intro asset hasset
    apply asset.shape_of_kind.2.2.1
    rw [hkinds asset hasset]
    cases scope with
    | namespaced => exact .inl rfl
    | clusterWide => exact .inr rfl
  refine ⟨by rw [hassets, map_filterMap_eq_self hshape], ?_⟩
  intro role hrole
  obtain ⟨asset, hasset, hpart⟩ := List.mem_filterMap.1 hrole
  have hkind : role.kind = scope.roleKind := by
    rw [← hkinds asset hasset, Asset.eq_role_of_asRole? hpart]
    rfl
  rw [role.kind_eq_roleKind] at hkind
  exact RoleScope.roleKind_inj.1 (congrArg AssetKind.name hkind)

theorem Sound.binding_known {bindings : List Asset}
    (hbindings : known? s.known kind = some bindings) {binding : RoleBinding}
    (hbinding : binding ∈ bindings.filterMap Asset.asBinding?) (hprimary : kind.isDerived = false) :
    binding.kind = kind ∧ .binding binding ∈ bindings := by
  obtain ⟨asset, hasset, hpart⟩ := List.mem_filterMap.1 hbinding
  have hbinding := Asset.eq_binding_of_asBinding? hpart
  subst hbinding
  exact ⟨h.kind_eq kind hprimary bindings hbindings _ hasset, hasset⟩

/-- The binding of a known dependency is known, and its role is found among the known roles. -/
theorem Sound.roleFound {assets : List Asset}
    (hassets : known? s.known .escalationDependency = some assets) :
    ∃ clusterRoles roles : List Role, known? s.known .clusterRole = some (clusterRoles.map .role) ∧
      known? s.known .role = some (roles.map .role) ∧
      ∀ dependency, .escalationDependency dependency ∈ assets →
        (∃ bindings, known? s.known dependency.binding.kind = some bindings ∧
          .binding dependency.binding ∈ bindings) ∧
        RoleFound dependency.binding (clusterRoles ++ roles) dependency.role := by
  cases h.derivation .escalationDependency rfl assets hassets with
  | @dependencies wideBindings wideRoles bindings roles nodes pods clusterWide namespaced
      hwideBindings hwideRoles hbindings hroles hnodes hpods hclusterWide hnamespaced =>
    obtain ⟨hwideKnown, hwideScope⟩ := h.exists_roles .clusterWide hwideRoles
    obtain ⟨hknown, hscope⟩ := h.exists_roles .namespaced hroles
    refine ⟨_, _, hwideKnown, hknown, ?_⟩
    intro dependency hdependency
    obtain ⟨found, hfound, hsame⟩ := List.mem_map.1 hdependency
    cases hsame
    have hrole := RoleFound.of_findRole hwideScope hscope dependency.binding
    rcases List.mem_append.1 hfound with hfound | hfound
    · rw [Escalation.eq_paths_of_resolve hclusterWide] at hfound
      obtain ⟨hbinding, hfoundRole⟩ := Escalation.of_mem_paths hfound
      obtain ⟨hkind, hmem⟩ := h.binding_known hwideBindings hbinding rfl
      have hbindingScope : dependency.binding.scope = .clusterWide := RoleBinding.scope_of_kind hkind
      rw [hbindingScope] at hrole
      rw [hkind, hfoundRole]
      exact ⟨⟨wideBindings, hwideBindings, hmem⟩, hrole⟩
    · rw [Escalation.eq_paths_of_resolve hnamespaced] at hfound
      obtain ⟨hbinding, hfoundRole⟩ := Escalation.of_mem_paths hfound
      obtain ⟨hkind, hmem⟩ := h.binding_known hbindings hbinding rfl
      have hbindingScope : dependency.binding.scope = .namespaced := RoleBinding.scope_of_kind hkind
      rw [hbindingScope] at hrole
      rw [hkind, hfoundRole]
      exact ⟨⟨bindings, hbindings, hmem⟩, hrole⟩

end

/-- Whatever was asked for and whatever has failed, the role of a known dependency is the first one
among the known roles that has the scope of its binding and the identity to which this refers. -/
theorem known_dependency_roleFound (list : AssetKind → SourceM σ (List Value))
    (defaultNames : AssetKind → List String) (includeDefaults : Bool) (start : σ)
    (requests : List Request) (assets : List Asset) :
    let inventory : Inventory σ := ⟨.ofManifests list defaultNames, includeDefaults⟩
    let s := inventory.after requests { source := start }
    known? s.known .escalationDependency = some assets →
    ∃ clusterRoles roles : List Role, known? s.known .clusterRole = some (clusterRoles.map .role) ∧
      known? s.known .role = some (roles.map .role) ∧
      ∀ dependency, .escalationDependency dependency ∈ assets →
        (∃ bindings, known? s.known dependency.binding.kind = some bindings ∧
          .binding dependency.binding ∈ bindings) ∧
        RoleFound dependency.binding (clusterRoles ++ roles) dependency.role := by
  intro inventory s hassets
  exact (sound_after (AssetSource.ofManifests_givesKinds list defaultNames) start requests).roleFound
    hassets

/-- Three bindings, each with a role that its reference does not designate: one whose reference gives
the other kind of role, one that refers to a cluster role but finds a role of the same name, and one
whose role is preceded by another one with the same identity. -/
def misreferenced : Snapshot where
  manifests := [
    (.node, named "n1" "" []),
    (.pod, named "worker" "ci" onNode),
    (.clusterRole, named "auditor" "" readsSecrets),
    (.clusterRole, named "admin" "" readsSecrets),
    (.role, named "admin" "ci" []),
    (.role, named "r" "a/b" []),
    (.role, named "b/r" "a" readsSecrets),
    (.clusterRoleBinding, named "wide" "" (grants "Role" "auditor")),
    (.roleBinding, named "scoped" "ci" (grants "ClusterRole" "admin")),
    (.roleBinding, named "slashed" "a" (grants "Role" "b/r"))]

theorem misreferenced_stock :
    let inventory : Inventory Snapshot := ⟨.ofManifests Snapshot.list fun _ ↦ [], true⟩
    ∀ other ∈ AssetKind.escalationDependency :: AssetKind.sources .escalationDependency,
      known? (inventory.after (serving .escalationDependency) { source := misreferenced }).known other =
        some (inventory.readOffStock misreferenced.answer other) :=
  known_after_serving rfl misreferenced.list_fixed
    (table_eq_readOffStock (by decide +kernel) (by decide +kernel))
    .escalationDependency

/-- The role of each of the three dependencies, and the role that the reference designates, with the
numbers of their rules. -/
theorem references_overruled :
    let inventory : Inventory Snapshot := ⟨.ofManifests Snapshot.list fun _ ↦ [], true⟩
    let s := inventory.after (serving .escalationDependency) { source := misreferenced }
    let brief (role : Role) : Value × Nat := (role.assetName, role.rules.length)
    ∃ (dependencies : List EscalationDependency) (clusterRoles roles : List Role),
      known? s.known .escalationDependency = some (dependencies.map .escalationDependency) ∧
      known? s.known .clusterRole = some (clusterRoles.map .role) ∧
      known? s.known .role = some (roles.map .role) ∧
      (∀ dependency ∈ dependencies,
        dependency.role ≠ (clusterRoles ++ roles).find? dependency.binding.designates) ∧
      (dependencies.map fun dependency ↦ (dependency.binding.name, dependency.role.map brief,
        ((clusterRoles ++ roles).find? dependency.binding.designates).map brief)) =
        [(.text "wide", some (.text "auditor", 1), none),
          (.text "scoped", some (.text "ci/admin", 0), some (.text "admin", 1)),
          (.text "slashed", some (.text "a/b/r", 0), some (.text "a/b/r", 1))] := by
  intro inventory s brief
  refine ⟨allPaths (inventory.stocked misreferenced.answer) [] true,
    (inventory.stocked misreferenced.answer .clusterRole).filterMap Asset.asRole?,
    (inventory.stocked misreferenced.answer .role).filterMap Asset.asRole?,
    misreferenced_stock .escalationDependency (by decide), ?_, ?_, by decide +kernel, by decide +kernel⟩
  · rw [misreferenced_stock .clusterRole (by decide)]
    decide +kernel
  · rw [misreferenced_stock .role (by decide)]
    decide +kernel

theorem misreferenced_roleFound :
    let inventory : Inventory Snapshot := ⟨.ofManifests Snapshot.list fun _ ↦ [], true⟩
    let s := inventory.after (serving .escalationDependency) { source := misreferenced }
    ∃ assets, known? s.known .escalationDependency = some assets ∧ assets.length = 3 ∧
      ∃ clusterRoles roles : List Role, known? s.known .clusterRole = some (clusterRoles.map .role) ∧
        known? s.known .role = some (roles.map .role) ∧
        ∀ dependency, .escalationDependency dependency ∈ assets →
          (∃ bindings, known? s.known dependency.binding.kind = some bindings ∧
            .binding dependency.binding ∈ bindings) ∧
          RoleFound dependency.binding (clusterRoles ++ roles) dependency.role := by
  intro inventory s
  have hknown := misreferenced_stock .escalationDependency (by decide)
  exact ⟨_, hknown, by decide +kernel, known_dependency_roleFound Snapshot.list (fun _ ↦ []) true
    misreferenced (serving .escalationDependency) _ hknown⟩

end Inventory

end ClusterAudit
