import ClusterAudit.Inventory
import ClusterAudit.Proofs.Detector.Kinds
import ClusterAudit.Proofs.Source.Steps

/-!
# Running an inventory

One equation for each operation of an inventory says what it answers and which state it leaves.  A
primary kind that is known is read without any effect; one that is not known is fetched once, which
is noted whether it succeeds or not, and is known afterwards only when it succeeds.
-/

namespace ClusterAudit

variable {σ : Type}

namespace InventoryState

/-- The state after a fetch of a kind, which has left the source in the given state. -/
def afterFetch (s : InventoryState σ) (kind : AssetKind) (source : σ) : InventoryState σ where
  source := source
  known := s.known
  activities := s.activities ++ [.fetched kind]

/-- The state in which the assets of one more kind are known. -/
def knowing (s : InventoryState σ) (kind : AssetKind) (assets : List Asset) : InventoryState σ :=
  { s with known := s.known ++ [(kind, assets)] }

variable (s : InventoryState σ) (kind : AssetKind) (source : σ) (assets : List Asset)

@[simp] theorem afterFetch_source : (s.afterFetch kind source).source = source := rfl

@[simp] theorem afterFetch_known : (s.afterFetch kind source).known = s.known := rfl

@[simp] theorem afterFetch_activities :
    (s.afterFetch kind source).activities = s.activities ++ [.fetched kind] := rfl

@[simp] theorem knowing_source : (s.knowing kind assets).source = s.source := rfl

@[simp] theorem knowing_known : (s.knowing kind assets).known = s.known ++ [(kind, assets)] := rfl

@[simp] theorem knowing_activities : (s.knowing kind assets).activities = s.activities := rfl

end InventoryState

namespace Inventory

open SourceM

/-! ## Known kinds -/

/-- The kinds that are known, with their assets. -/
abbrev Knowledge := List (AssetKind × List Asset)

theorem known?_append (known more : Knowledge) (kind : AssetKind) :
    known? (known ++ more) kind = (known? known kind).or (known? more kind) := by
  unfold known?
  rw [List.find?_append, Option.map_or]

theorem known?_append_of_some {known : Knowledge} {kind : AssetKind} {assets : List Asset}
    (h : known? known kind = some assets) (more : Knowledge) :
    known? (known ++ more) kind = some assets := by
  rw [known?_append, h, Option.some_or]

theorem known?_append_of_ne {kind other : AssetKind} (h : other ≠ kind) (known : Knowledge)
    (assets : List Asset) : known? (known ++ [(other, assets)]) kind = known? known kind := by
  rw [known?_append]
  simp [known?, h]

theorem known?_append_self {known : Knowledge} {kind : AssetKind} (h : known? known kind = none)
    (assets : List Asset) : known? (known ++ [(kind, assets)]) kind = some assets := by
  rw [known?_append, h, Option.none_or]
  simp [known?]

theorem known?_of_mem {known : Knowledge} {kind : AssetKind} (h : kind ∈ known.map (·.1)) :
    ∃ assets, known? known kind = some assets := by
  obtain ⟨entry, hentry, rfl⟩ := List.mem_map.1 h
  rw [← Option.isSome_iff_exists, known?, Option.isSome_map, List.find?_isSome]
  exact ⟨entry, hentry, decide_eq_true rfl⟩

/-! ## Single steps -/

theorem run_lift {α : Type} (result : Except Fault α) (s : InventoryState σ) :
    (lift result : InventoryM σ α).run s = (result, s) := rfl

theorem run_note (activity : Activity) (s : InventoryState σ) :
    (note activity).run s = (.ok (), { s with activities := s.activities ++ [activity] }) := rfl

/-! ## Primary kinds -/

/-- What stays of the fetched assets of a kind, without the default objects unless they are wanted. -/
def wanted (inventory : Inventory σ) (kind : AssetKind) (assets : List Asset) :
    Except Fault (List Asset) :=
  if inventory.includeDefaults then .ok assets
  else withoutNames (inventory.source.defaultNames kind) assets

/-- What a fetch of a kind gives after the default objects are left out, and the source after it. -/
def load (inventory : Inventory σ) (kind : AssetKind) (source : σ) : Except Fault (List Asset) × σ :=
  let (result, after) := (inventory.source.fetch kind).run source
  (result >>= inventory.wanted kind, after)

variable (inventory : Inventory σ)

theorem fetchWanted_run (kind : AssetKind) (s : InventoryState σ) :
    (inventory.fetchWanted kind).run s =
      ((inventory.load kind s.source).1, s.afterFetch kind (inventory.load kind s.source).2) := by
  have hfetch : (inventory.fetch kind).run s =
      (((inventory.source.fetch kind).run s.source).1,
        s.afterFetch kind ((inventory.source.fetch kind).run s.source).2) := rfl
  unfold fetchWanted load
  rw [run_bind, hfetch]
  rcases (inventory.source.fetch kind).run s.source with ⟨_ | assets, after⟩
  · rfl
  · unfold wanted
    cases inventory.includeDefaults with
    | false => rfl
    | true => rfl

theorem remembered_run (kind : AssetKind) (x : InventoryM σ (List Asset)) (s : InventoryState σ) :
    (remembered kind x).run s =
      match known? s.known kind with
      | some assets => (.ok assets, s)
      | none =>
        match x.run s with
        | (.ok assets, t) => (.ok assets, t.knowing kind assets)
        | (.error fault, t) => (.error fault, t) := by
  unfold remembered
  rw [run_bind_of_ok (run_get s)]
  cases known? s.known kind with
  | some assets => rfl
  | none =>
    dsimp only
    rw [run_bind]
    rcases x.run s with ⟨_ | _, t⟩
    · rfl
    · rfl

theorem primary_run_known {kind : AssetKind} {s : InventoryState σ} {assets : List Asset}
    (h : known? s.known kind = some assets) : (inventory.primary kind).run s = (.ok assets, s) := by
  rw [primary, remembered_run, h]

theorem primary_run_unknown {kind : AssetKind} {s : InventoryState σ}
    (h : known? s.known kind = none) :
    (inventory.primary kind).run s =
      match inventory.load kind s.source with
      | (.ok assets, source) => (.ok assets, (s.afterFetch kind source).knowing kind assets)
      | (.error fault, source) => (.error fault, s.afterFetch kind source) := by
  rw [primary, remembered_run, h, fetchWanted_run]
  rcases inventory.load kind s.source with ⟨_ | _, source⟩
  · rfl
  · rfl

/-- A primary kind that is not known is fetched at once. -/
theorem primary_run_unknown_activities {kind : AssetKind} {s : InventoryState σ}
    (h : known? s.known kind = none) :
    ((inventory.primary kind).run s).2.activities = s.activities ++ [.fetched kind] := by
  rw [inventory.primary_run_unknown h]
  rcases inventory.load kind s.source with ⟨_ | _, source⟩
  · rfl
  · rfl

theorem assetsOf_primary {kind : AssetKind} (h : kind.isDerived = false) :
    inventory.assetsOf kind = inventory.primary kind := by
  cases kind with
  | schedulingPair => cases h
  | escalationDependency => cases h
  | _ => rfl

/-! ## Lists of kinds -/

theorem getAssets_cons_run (kind : AssetKind) (rest : List AssetKind) (s : InventoryState σ) :
    (inventory.getAssets (kind :: rest)).run s =
      match (inventory.assetsOf kind).run s with
      | (.error fault, t) => (.error fault, t)
      | (.ok assets, t) =>
        match (inventory.getAssets rest).run t with
        | (.error fault, u) => (.error fault, u)
        | (.ok others, u) => (.ok (assets ++ others), u) := by
  rw [getAssets, run_bind]
  rcases (inventory.assetsOf kind).run s with ⟨_ | assets, t⟩
  · rfl
  · dsimp only
    rw [run_bind]
    rcases (inventory.getAssets rest).run t with ⟨_ | others, u⟩
    · rfl
    · rfl

theorem prefetch_cons_run (kind : AssetKind) (rest : List AssetKind) (s : InventoryState σ) :
    (inventory.prefetch (kind :: rest)).run s =
      match (inventory.assetsOf kind).run s with
      | (.error fault, t) => (.error fault, t)
      | (.ok _, t) => (inventory.prefetch rest).run t := by
  rw [prefetch, run_bind, run_discard]
  rcases (inventory.assetsOf kind).run s with ⟨_ | assets, t⟩
  · rfl
  · rfl

end Inventory

end ClusterAudit
