import ClusterAudit.Config
import ClusterAudit.Inventory
import Mathlib.Data.List.Basic
import Mathlib.Data.List.Induction

/-!
# Kinds of detectors

The kinds that some detectors look at are listed once each, in order of first occurrence, and so are
the primary kinds that these are made of.  Any two detectors of the catalogs look at the same kinds
or at no kind in common, so every detector finds its own kinds in the common list in its own order.
-/

namespace ClusterAudit

/-! ## Distinct kinds -/

namespace AssetKind

theorem distinct_concat (kinds : List AssetKind) (kind : AssetKind) :
    distinct (kinds ++ [kind]) =
      if kind ∈ distinct kinds then distinct kinds else distinct kinds ++ [kind] := by
  simp [distinct, List.foldl_append]

@[simp] theorem mem_distinct {kinds : List AssetKind} {kind : AssetKind} :
    kind ∈ distinct kinds ↔ kind ∈ kinds := by
  induction kinds using List.reverseRecOn with
  | nil => simp [distinct]
  | append_singleton kinds last ih =>
    rw [distinct_concat]
    split
    · rename_i hlast
      rw [List.mem_append, List.mem_singleton, ih]
      constructor
      · exact Or.inl
      · rintro (hkind | rfl)
        · exact hkind
        · exact ih.1 hlast
    · simp [ih]

theorem nodup_distinct (kinds : List AssetKind) : (distinct kinds).Nodup := by
  induction kinds using List.reverseRecOn with
  | nil => exact List.nodup_nil
  | append_singleton kinds last ih =>
    rw [distinct_concat]
    split
    · exact ih
    · rename_i hlast
      rw [List.nodup_append]
      refine ⟨ih, List.pairwise_singleton _ last, fun kind hkind other hother ↦ ?_⟩
      rintro rfl
      exact hlast (List.mem_singleton.1 hother ▸ hkind)

theorem distinct_eq_self {kinds : List AssetKind} (h : kinds.Nodup) : distinct kinds = kinds := by
  induction kinds using List.reverseRecOn with
  | nil => rfl
  | append_singleton kinds last ih =>
    obtain ⟨hkinds, -, hlast⟩ := List.nodup_append.1 h
    rw [distinct_concat, ih hkinds, if_neg]
    intro hmem
    exact hlast last hmem last List.mem_cons_self rfl

/-- The order is that of first occurrence. -/
theorem distinct_pairwise_idxOf (kinds : List AssetKind) :
    (distinct kinds).Pairwise fun kind later ↦ kinds.idxOf kind < kinds.idxOf later := by
  induction kinds using List.reverseRecOn with
  | nil => exact List.Pairwise.nil
  | append_singleton kinds last ih =>
    -- What occurs in a list occurs first at the same place when the list grows.
    have hearlier : (distinct kinds).Pairwise fun kind later ↦
        (kinds ++ [last]).idxOf kind < (kinds ++ [last]).idxOf later := by
      refine ih.imp_of_mem fun {kind later} hkind hlater hlt ↦ ?_
      rw [List.idxOf_append_of_mem (mem_distinct.1 hkind),
        List.idxOf_append_of_mem (mem_distinct.1 hlater)]
      exact hlt
    rw [distinct_concat]
    split
    · exact hearlier
    · rename_i hlast
      refine List.pairwise_append.2 ⟨hearlier, List.pairwise_singleton _ last, ?_⟩
      intro kind hkind later hlater
      obtain rfl := List.mem_singleton.1 hlater
      have hmem : kind ∈ kinds := mem_distinct.1 hkind
      have hnot : later ∉ kinds := fun h ↦ hlast (mem_distinct.2 h)
      rw [List.idxOf_append_of_mem hmem, List.idxOf_append_of_notMem hnot]
      exact Nat.lt_add_right _ (List.idxOf_lt_length_of_mem hmem)

theorem distinct_append_of_subset {kinds more : List AssetKind} (h : ∀ kind ∈ more, kind ∈ kinds) :
    distinct (kinds ++ more) = distinct kinds := by
  induction more using List.reverseRecOn with
  | nil => rw [List.append_nil]
  | append_singleton more last ih =>
    have hmore : distinct (kinds ++ more) = distinct kinds :=
      ih fun kind hkind ↦ h kind (List.mem_append_left _ hkind)
    rw [← List.append_assoc, distinct_concat, hmore, if_pos]
    exact mem_distinct.2 (h last (List.mem_append_right _ List.mem_cons_self))

theorem distinct_filter (p : AssetKind → Bool) (kinds : List AssetKind) :
    distinct (kinds.filter p) = (distinct kinds).filter p := by
  induction kinds using List.reverseRecOn with
  | nil => rfl
  | append_singleton kinds last ih =>
    rw [List.filter_append, distinct_concat]
    cases hp : p last with
    | false =>
      have hsingle : [last].filter p = [] := by simp [hp]
      rw [hsingle, List.append_nil, ih]
      split
      · rfl
      · rw [List.filter_append, hsingle, List.append_nil]
    | true =>
      have hsingle : [last].filter p = [last] := by simp [hp]
      rw [hsingle, distinct_concat, ih]
      by_cases hlast : last ∈ distinct kinds
      · rw [if_pos hlast, if_pos (List.mem_filter.2 ⟨hlast, hp⟩)]
      · rw [if_neg hlast, if_neg fun h ↦ hlast (List.mem_filter.1 h).1, List.filter_append, hsingle]

/-! ## Required kinds -/

theorem sources_primary {kind source : AssetKind} (h : source ∈ kind.sources) :
    source.isDerived = false := by
  revert source
  cases kind <;> decide

theorem sources_of_primary {kind : AssetKind} (h : kind.isDerived = false) :
    kind.sources = [kind] := by
  cases kind with
  | schedulingPair => cases h
  | escalationDependency => cases h
  | _ => rfl

end AssetKind

theorem mem_requiredKinds {kinds : List AssetKind} {source : AssetKind} :
    source ∈ requiredKinds kinds ↔ ∃ kind ∈ kinds, source ∈ kind.sources := by
  rw [requiredKinds, AssetKind.mem_distinct, List.mem_flatMap]

theorem requiredKinds_primary {kinds : List AssetKind} {source : AssetKind}
    (h : source ∈ requiredKinds kinds) : source.isDerived = false := by
  obtain ⟨kind, -, hsource⟩ := mem_requiredKinds.1 h
  exact AssetKind.sources_primary hsource

/-- Required kinds require only themselves. -/
theorem requiredKinds_requiredKinds (kinds : List AssetKind) :
    requiredKinds (requiredKinds kinds) = requiredKinds kinds := by
  have hself : (requiredKinds kinds).flatMap AssetKind.sources = requiredKinds kinds := by
    rw [List.flatMap_congr fun source hsource ↦
      AssetKind.sources_of_primary (requiredKinds_primary hsource)]
    exact List.flatMap_singleton' _
  rw [requiredKinds, hself]
  exact AssetKind.distinct_eq_self (AssetKind.nodup_distinct _)

theorem requiredKinds_nodup (kinds : List AssetKind) : (requiredKinds kinds).Nodup :=
  AssetKind.nodup_distinct _

/-! ## Detectors of the catalogs -/

theorem selectFrom_sublist (indices : List Int) (position : Int) (detectors : List Detector) :
    List.Sublist (selectFrom position indices detectors) detectors := by
  induction detectors generalizing position with
  | nil => exact List.Sublist.slnil
  | cons detector rest ih =>
    unfold selectFrom
    split
    · exact (ih (position + 1)).cons_cons detector
    · exact (ih (position + 1)).cons detector

theorem select_sublist (detectors : List Detector) (selection : Selection) :
    List.Sublist (select detectors selection) detectors := by
  cases selection with
  | none => exact List.Sublist.refl detectors
  | some indices => exact selectFrom_sublist indices 1 detectors

theorem AuditConfig.detectors_sublist (config : AuditConfig) :
    List.Sublist config.detectors Detector.all := by
  have h (catalog : Catalog) : List.Sublist (config.detectorsOf catalog) catalog.detectors :=
    select_sublist catalog.detectors (config.selection catalog)
  exact (h .rbac).append ((h .isolation).append ((h .podSecurity).append (List.Sublist.refl [])))

namespace Detector

theorem mem_assetKinds {detectors : List Detector} {kind : AssetKind} :
    kind ∈ assetKinds detectors ↔ ∃ detector ∈ detectors, kind ∈ detector.kinds := by
  rw [assetKinds, AssetKind.mem_distinct, List.mem_flatMap]

theorem all_names_nodup : (all.map (·.name)).Nodup := by
  decide

theorem all_kinds_nodup {detector : Detector} (h : detector ∈ all) : detector.kinds.Nodup := by
  have hall : ∀ kinds ∈ all.map (·.kinds), kinds.Nodup := by decide
  exact hall detector.kinds (List.mem_map_of_mem h)

/-- Two detectors look at the same kinds or at no kind in common. -/
theorem all_kinds_eq_or_disjoint {detector other : Detector} (h : detector ∈ all)
    (hother : other ∈ all) :
    detector.kinds = other.kinds ∨ ∀ kind ∈ detector.kinds, kind ∉ other.kinds := by
  have hall : ∀ kinds ∈ all.map (·.kinds), ∀ others ∈ all.map (·.kinds),
      kinds = others ∨ ∀ kind ∈ kinds, kind ∉ others := by decide
  exact hall detector.kinds (List.mem_map_of_mem h) other.kinds (List.mem_map_of_mem hother)

/-- The kinds of a detector stand together, in its order, where one of its kinds occurs first. -/
theorem kinds_prefix_flatMap {detectors : List Detector} (hall : ∀ d ∈ detectors, d ∈ all)
    {detector : Detector} (h : detector ∈ detectors) :
    detector.kinds <+: (detectors.flatMap (·.kinds)).filter detector.appliesTo := by
  have hself : detector.kinds.filter detector.appliesTo = detector.kinds :=
    List.filter_eq_self.2 fun kind hkind ↦ List.contains_iff_mem.2 hkind
  induction detectors with
  | nil => cases h
  | cons first rest ih =>
    rw [List.flatMap_cons, List.filter_append]
    rcases List.mem_cons.1 h with rfl | hrest
    · rw [hself]
      exact List.prefix_append _ _
    · have hdetector : detector ∈ all := hall detector h
      -- The first detector either has the very same kinds, or adds none of those looked for.
      rcases all_kinds_eq_or_disjoint hdetector (hall first List.mem_cons_self) with hsame | hdisjoint
      · rw [← hsame, hself]
        exact List.prefix_append _ _
      · have hfirst : first.kinds.filter detector.appliesTo = [] := by
          rw [List.filter_eq_nil_iff]
          intro kind hkind happlies
          exact hdisjoint kind (List.contains_iff_mem.1 happlies) hkind
        rw [hfirst, List.nil_append]
        exact ih (fun d hd ↦ hall d (List.mem_cons_of_mem first hd)) hrest

/-- A detector finds its kinds among those of all detectors, in its own order. -/
theorem assetKinds_filter_appliesTo {detectors : List Detector} (hall : ∀ d ∈ detectors, d ∈ all)
    {detector : Detector} (h : detector ∈ detectors) :
    (assetKinds detectors).filter detector.appliesTo = detector.kinds := by
  obtain ⟨more, hmore⟩ := kinds_prefix_flatMap hall h
  have hsubset : ∀ kind ∈ more, kind ∈ detector.kinds := by
    intro kind hkind
    have hmem : kind ∈ (detectors.flatMap (·.kinds)).filter detector.appliesTo :=
      hmore ▸ List.mem_append_right _ hkind
    exact List.contains_iff_mem.1 (List.mem_filter.1 hmem).2
  rw [assetKinds, ← AssetKind.distinct_filter, ← hmore, AssetKind.distinct_append_of_subset hsubset]
  exact AssetKind.distinct_eq_self (all_kinds_nodup (hall detector h))

end Detector

end ClusterAudit
