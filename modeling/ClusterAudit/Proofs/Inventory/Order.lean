import ClusterAudit.Proofs.Escalation.Order
import ClusterAudit.Proofs.Inventory.Log
import ClusterAudit.Proofs.Inventory.ReadOff

/-!
# Stock in another order

Manifests in another order give the same assets in another order, also when default objects are left
out.  The derived assets follow: pairs are made of every node with every pod, and when nodes and roles
are told apart by their names, the dependencies are found whatever stands first.
-/

namespace ClusterAudit

open Filtering Manifest Traversal

/-! ## Names that tell apart -/

/-- Two names that are the same as a third value are equal. -/
theorem Manifest.Value.IsName.eq_of_same {v w x : Value} (hv : v.IsName) (hw : w.IsName)
    (hvx : v.same x = true) (hwx : w.same x = true) : v = w := by
  cases hv with
  | text s => exact ((eq_text_iff_of_same hvx hwx s).1 rfl).symm
  | null =>
    cases hw with
    | text s => exact (eq_text_iff_of_same hvx hwx s).2 rfl
    | null => rfl

/-- Assets that have names, no two of them the same one. -/
structure Asset.ToldApart (assets : List Asset) : Prop where
  named : ∀ asset ∈ assets, asset.HasName
  nodup : (assets.map Asset.name).Nodup

instance (assets : List Asset) : Decidable (Asset.ToldApart assets) :=
  decidable_of_iff ((∀ asset ∈ assets, asset.HasName) ∧ (assets.map Asset.name).Nodup)
    ⟨fun h ↦ ⟨h.1, h.2⟩, fun h ↦ ⟨h.named, h.nodup⟩⟩

namespace Asset.ToldApart

variable {assets others : List Asset}

theorem sublist (h : ToldApart assets) (hsublist : others.Sublist assets) : ToldApart others where
  named asset hasset := h.named asset (hsublist.subset hasset)
  nodup := h.nodup.sublist (hsublist.map _)

theorem perm (h : ToldApart assets) (hperm : assets.Perm others) : ToldApart others where
  named asset hasset := h.named asset (hperm.mem_iff.2 hasset)
  nodup := (hperm.map _).nodup_iff.1 h.nodup

/-- At most one of the assets has a name that is the same as a value. -/
theorem eq_of_same (h : ToldApart assets) {asset other : Asset} (hasset : asset ∈ assets)
    (hother : other ∈ assets) {x : Value} (hx : asset.name.same x = true)
    (hotherx : other.name.same x = true) : asset = other :=
  List.inj_on_of_nodup_map h.nodup hasset hother
    ((h.named asset hasset).isName.eq_of_same (h.named other hother).isName hx hotherx)

theorem nodeOf_perm (h : ToldApart assets) (hperm : assets.Perm others) (pod : Pod) :
    Escalation.nodeOf (assets.filterMap asNode?) pod =
      Escalation.nodeOf (others.filterMap asNode?) pod := by
  apply find?_perm (hperm.filterMap _)
  intro node hnode other hother hsame hotherSame
  obtain ⟨asset, hasset, hread⟩ := List.mem_filterMap.1 hnode
  obtain ⟨found, hfound, hfoundRead⟩ := List.mem_filterMap.1 hother
  rw [eq_node_of_asNode? hread] at hasset
  rw [eq_node_of_asNode? hfoundRead] at hfound
  exact Asset.node.inj (h.eq_of_same hasset hfound hsame hotherSame)

theorem findRole_perm (h : ToldApart assets) (hperm : assets.Perm others) (binding : RoleBinding) :
    Escalation.findRole binding (assets.filterMap asRole?) =
      Escalation.findRole binding (others.filterMap asRole?) := by
  apply find?_perm (hperm.filterMap _)
  intro role hrole other hother hsame hotherSame
  obtain ⟨asset, hasset, hread⟩ := List.mem_filterMap.1 hrole
  obtain ⟨found, hfound, hfoundRead⟩ := List.mem_filterMap.1 hother
  rw [eq_role_of_asRole? hread] at hasset
  rw [eq_role_of_asRole? hfoundRead] at hfound
  exact Asset.role.inj (h.eq_of_same hasset hfound hsame hotherSame)

theorem written_roles (h : ToldApart assets) :
    ∀ role ∈ assets.filterMap asRole?, ∀ part ∈ role.nameParts, part.isWritable = true := by
  intro role hrole
  obtain ⟨asset, hasset, hread⟩ := List.mem_filterMap.1 hrole
  rw [eq_role_of_asRole? hread] at hasset
  exact (Asset.hasName_iff.1 (h.named _ hasset)).1

end Asset.ToldApart

namespace Inventory

variable {σ : Type} {inventory : Inventory σ}

/-! ## Primary kinds -/

def nameKey (asset : Asset) : Except Fault Scalar := do
  (← asset.writtenName).asKey

theorem isNamed_isOk (names : List String) (asset : Asset) :
    (isNamed names asset).isOk = (nameKey asset).isOk := by
  unfold isNamed nameKey
  cases asset.writtenName with
  | error fault => rfl
  | ok name =>
    change Except.isOk (name.asKey >>= _) = name.asKey.isOk
    cases name.asKey with
    | error fault => rfl
    | ok key =>
      cases key with
      | text s => rfl
      | _ => rfl

theorem withoutNames_isOk_iff {names : List String} {assets : List Asset} :
    (withoutNames names assets).isOk = true ↔ ∀ asset ∈ assets, (nameKey asset).isOk = true := by
  induction assets with
  | nil => simp [withoutNames, Except.isOk, Except.toBool]
  | cons asset rest ih =>
    rw [List.forall_mem_cons, ← ih, ← isNamed_isOk names, withoutNames]
    cases isNamed names asset with
    | error fault => simp [bind, Except.bind, Except.isOk, Except.toBool]
    | ok named =>
      cases withoutNames names rest with
      | error fault => simp [bind, Except.bind, Except.isOk, Except.toBool]
      | ok others => cases named with
        | true => simp [bind, Except.bind, pure, Except.pure, Except.isOk, Except.toBool]
        | false => simp [bind, Except.bind, pure, Except.pure, Except.isOk, Except.toBool]

theorem kept_perm {assets others : List Asset} (h : assets.Perm others) (kind : AssetKind) :
    (inventory.kept kind assets).Perm (inventory.kept kind others) := by
  unfold kept
  split
  · exact h
  · exact h.filter _

theorem wanted_perm {kind : AssetKind} {assets others wanted : List Asset} (hperm : assets.Perm others)
    (h : inventory.wanted kind assets = .ok wanted) :
    ∃ moved, inventory.wanted kind others = .ok moved ∧ wanted.Perm moved := by
  have hothers : (inventory.wanted kind others).isOk = true := by
    unfold Inventory.wanted at h ⊢
    split
    · rfl
    · rename_i hinclude
      rw [if_neg hinclude] at h
      have hkeys := withoutNames_isOk_iff.1 (congrArg Except.isOk h)
      exact withoutNames_isOk_iff.2 fun asset hasset ↦ hkeys asset (hperm.mem_iff.2 hasset)
  obtain ⟨moved, hmoved⟩ := exists_of_isOk hothers
  refine ⟨moved, hmoved, ?_⟩
  rw [inventory.eq_kept_of_wanted h, inventory.eq_kept_of_wanted hmoved]
  exact kept_perm hperm kind

/-- Contents that list the same manifests of every kind in another order. -/
def Rearranged (contents others : AssetKind → Except Fault (List Value)) : Prop :=
  ∀ kind, ∃ docs moved, contents kind = .ok docs ∧ others kind = .ok moved ∧ docs.Perm moved

variable {contents others : AssetKind → Except Fault (List Value)} {kind : AssetKind}

theorem Rearranged.symm (h : Rearranged contents others) : Rearranged others contents := by
  intro kind
  obtain ⟨docs, moved, hdocs, hmoved, hperm⟩ := h kind
  exact ⟨moved, docs, hmoved, hdocs, hperm.symm⟩

theorem Rearranged.stock_perm (h : Rearranged contents others) {assets : List Asset}
    (hassets : inventory.stock contents kind = .ok assets) :
    ∃ moved, inventory.stock others kind = .ok moved ∧ assets.Perm moved := by
  obtain ⟨docs, movedDocs, hdocs, hmovedDocs, hperm⟩ := h kind
  unfold stock at hassets ⊢
  rw [hdocs] at hassets
  rw [hmovedDocs]
  obtain ⟨read, hread, hwanted⟩ := bind_eq_ok (x := docs.mapM (Asset.ofManifest kind)) hassets
  obtain ⟨movedRead, hmovedRead, hreadPerm⟩ := mapM_perm hperm hread
  obtain ⟨moved, hmoved, hmovedPerm⟩ := wanted_perm hreadPerm hwanted
  refine ⟨moved, ?_, hmovedPerm⟩
  change (movedDocs.mapM (Asset.ofManifest kind) >>= inventory.wanted kind) = _
  rw [hmovedRead]
  exact hmoved

theorem Rearranged.stocked_perm (h : Rearranged contents others) (kind : AssetKind) :
    (inventory.stocked contents kind).Perm (inventory.stocked others kind) := by
  unfold stocked
  cases hstock : inventory.stock contents kind with
  | ok assets =>
    obtain ⟨moved, hmoved, hperm⟩ := h.stock_perm hstock
    rw [hmoved]
    exact hperm
  | error fault =>
    cases hothers : inventory.stock others kind with
    | error other => exact List.Perm.refl _
    | ok moved =>
      obtain ⟨assets, hassets, -⟩ := h.symm.stock_perm hothers
      rw [hstock] at hassets
      cases hassets

/-! ## Derived kinds -/

section

variable {stored moved : AssetKind → List Asset} (hperm : ∀ kind, (stored kind).Perm (moved kind))

include hperm

theorem derive_isOk_of_perm (hroles : ∀ kind ∈ [.role, .clusterRole], Asset.ToldApart (stored kind))
    (h : (inventory.derive stored kind).isOk = true) :
    (inventory.derive moved kind).isOk = true := by
  cases kind with
  | escalationDependency =>
    have hcomparable {bindingKind roleKind : AssetKind} {found : List EscalationDependency}
        (hrole : roleKind ∈ [.role, .clusterRole])
        (hfound : Escalation.resolve ((stored bindingKind).filterMap Asset.asBinding?)
          ((stored roleKind).filterMap Asset.asRole?) ((stored .node).filterMap Asset.asNode?)
          ((stored .pod).filterMap Asset.asPod?) (inventory.source.defaultNames .serviceAccount)
          inventory.includeDefaults = .ok found) :
        ∃ others, Escalation.resolve ((moved bindingKind).filterMap Asset.asBinding?)
          ((moved roleKind).filterMap Asset.asRole?) ((moved .node).filterMap Asset.asNode?)
          ((moved .pod).filterMap Asset.asPod?) (inventory.source.defaultNames .serviceAccount)
          inventory.includeDefaults = .ok others := by
      have hkeys := Escalation.resolve_isOk_iff.1 (congrArg Except.isOk hfound)
      have hapart := hroles roleKind hrole
      exact exists_of_isOk (Escalation.resolve_isOk_iff.2 (hkeys.perm
        ((hperm bindingKind).filterMap _) ((hperm roleKind).filterMap _) ((hperm .node).filterMap _)
        ((hperm .pod).filterMap _) hapart.written_roles (hapart.findRole_perm (hperm roleKind))))
    obtain ⟨assets, hassets⟩ := exists_of_isOk h
    obtain ⟨clusterWide, hclusterWide, hassets⟩ := bind_eq_ok hassets
    obtain ⟨namespaced, hnamespaced, -⟩ := bind_eq_ok hassets
    obtain ⟨movedWide, hmovedWide⟩ := hcomparable (by decide) hclusterWide
    obtain ⟨movedNamespaced, hmovedNamespaced⟩ := hcomparable (by decide) hnamespaced
    rw [derive, hmovedWide, hmovedNamespaced]
    rfl
  | _ => rfl

theorem pathsBetween_perm (hnodes : Asset.ToldApart (stored .node)) {roleKind : AssetKind}
    (hroles : Asset.ToldApart (stored roleKind)) (passedOver : List String) (wantAll : Bool)
    (bindingKind : AssetKind) :
    (pathsBetween stored passedOver wantAll bindingKind roleKind).Perm
      (pathsBetween moved passedOver wantAll bindingKind roleKind) :=
  Escalation.paths_perm ((hperm bindingKind).filterMap _) ((hperm .pod).filterMap _)
    (hroles.findRole_perm (hperm roleKind)) (hnodes.nodeOf_perm (hperm .node))

/-- When the objects that are looked up by their names are told apart by them, assets that are read
off a stock in another order are the same in another order. -/
theorem readOff_perm (h : ∀ kind ∈ [.node, .role, .clusterRole], Asset.ToldApart (stored kind))
    (passedOver : List String) (wantAll : Bool) (kind : AssetKind) :
    (readOff stored passedOver wantAll kind).Perm (readOff moved passedOver wantAll kind) := by
  cases kind with
  | schedulingPair =>
    apply List.Perm.flatMap ((hperm .node).filterMap _)
    intro node _
    exact ((hperm .pod).filterMap _).map _
  | escalationDependency =>
    have hclusterWide := pathsBetween_perm hperm (h .node (by decide)) (h .clusterRole (by decide))
      passedOver wantAll .clusterRoleBinding
    have hnamespaced := pathsBetween_perm hperm (h .node (by decide)) (h .role (by decide))
      passedOver wantAll .roleBinding
    exact (hclusterWide.append hnamespaced).map _
  | _ => exact hperm _

end

end Inventory

end ClusterAudit
