import ClusterAudit.Proofs.Inventory.Growth
import ClusterAudit.Proofs.Manifest.Written

/-!
# The log of fetches

The activities of an inventory say which kinds were fetched, and so, by asking the source again in
the same order, what every fetch has answered.  In every inventory that has grown from nothing a
primary kind is known exactly when one of its fetches has succeeded, and after that it is not
fetched again.
-/

namespace ClusterAudit

open Manifest

variable {σ : Type}

/-! ## Replaying fetches -/

def fetchedKinds (activities : List Activity) : List AssetKind :=
  activities.filterMap fun
    | .fetched kind => some kind
    | .reported _ => none

theorem fetchedKinds_concat (activities : List Activity) (kind : AssetKind) :
    fetchedKinds (activities ++ [.fetched kind]) = fetchedKinds activities ++ [kind] := by
  rw [fetchedKinds, List.filterMap_append]
  rfl

namespace AssetSource

variable (source : AssetSource σ)

/-- The state of a source after kinds were fetched one after another. -/
def replay (kinds : List AssetKind) (start : σ) : σ :=
  kinds.foldl (fun state kind ↦ ((source.fetch kind).run state).2) start

/-- What a source answers when kinds are fetched one after another. -/
def answers : List AssetKind → σ → List (AssetKind × Except Fault (List Asset))
  | [], _ => []
  | kind :: rest, state =>
    (kind, ((source.fetch kind).run state).1) :: answers rest ((source.fetch kind).run state).2

theorem replay_concat (kinds : List AssetKind) (kind : AssetKind) (start : σ) :
    source.replay (kinds ++ [kind]) start =
      ((source.fetch kind).run (source.replay kinds start)).2 := by
  rw [replay, List.foldl_append]
  rfl

theorem answers_concat (kinds : List AssetKind) (kind : AssetKind) (start : σ) :
    source.answers (kinds ++ [kind]) start = source.answers kinds start ++
      [(kind, ((source.fetch kind).run (source.replay kinds start)).1)] := by
  induction kinds generalizing start with
  | nil => rfl
  | cons first rest ih =>
    rw [List.cons_append, answers, ih, answers, List.cons_append]
    rfl

theorem exists_run_of_mem_answers {kinds : List AssetKind} {start : σ}
    {entry : AssetKind × Except Fault (List Asset)} (h : entry ∈ source.answers kinds start) :
    ∃ state, ((source.fetch entry.1).run state).1 = entry.2 := by
  induction kinds generalizing start with
  | nil => cases h
  | cons kind rest ih =>
    rcases List.mem_cons.1 h with rfl | hrest
    · exact ⟨start, rfl⟩
    · exact ih hrest

/-- Every fetch that succeeds gives assets whose names can be compared. -/
def GivesNames : Prop :=
  ∀ kind state assets, ((source.fetch kind).run state).1 = .ok assets →
    ∀ asset ∈ assets, asset.HasName

/-- Every fetch that succeeds gives assets of the kind that was asked for. -/
def GivesKinds : Prop :=
  ∀ kind state assets, ((source.fetch kind).run state).1 = .ok assets →
    ∀ asset ∈ assets, asset.kind = kind

end AssetSource

namespace Inventory

variable (inventory : Inventory σ)

/-! ## Leaving out default objects -/

/-- The assets of a kind that are no default objects, or all of them when those are wanted. -/
def kept (kind : AssetKind) (assets : List Asset) : List Asset :=
  if inventory.includeDefaults then assets
  else assets.filter fun asset ↦
    ∀ name ∈ inventory.source.defaultNames kind, asset.name ≠ .text name

theorem mem_of_mem_kept {kind : AssetKind} {assets : List Asset} {asset : Asset}
    (h : asset ∈ inventory.kept kind assets) : asset ∈ assets := by
  unfold kept at h
  split at h
  · exact h
  · exact (List.mem_filter.1 h).1

theorem kept_append (kind : AssetKind) (assets more : List Asset) :
    inventory.kept kind (assets ++ more) =
      inventory.kept kind assets ++ inventory.kept kind more := by
  unfold kept
  split
  · rfl
  · exact List.filter_append ..

theorem isNamed_eq {asset : Asset} (h : asset.HasName) (names : List String) :
    isNamed names asset = .ok (!decide (∀ name ∈ names, asset.name ≠ .text name)) := by
  rw [isNamed, h.writtenName]
  have hname := h.isName
  generalize asset.name = name at hname
  cases hname with
  | null =>
    have hnone : ∀ name ∈ names, Value.null ≠ .text name := by simp [Value.null, Value.text]
    rw [decide_eq_true hnone]
    rfl
  | text s =>
    have hcontains : (!decide (∀ name ∈ names, Value.text s ≠ .text name)) = names.contains s := by
      simp [Value.text, List.forall_mem_ne]
    rw [hcontains]
    rfl

theorem withoutNames_eq_filter {assets : List Asset} (h : ∀ asset ∈ assets, asset.HasName)
    (names : List String) :
    withoutNames names assets =
      .ok (assets.filter fun asset ↦ ∀ name ∈ names, asset.name ≠ .text name) := by
  induction assets with
  | nil => rfl
  | cons asset rest ih =>
    have hrest := ih fun other hother ↦ h other (List.mem_cons_of_mem asset hother)
    rw [withoutNames, isNamed_eq (h asset List.mem_cons_self), hrest, List.filter_cons]
    cases decide (∀ name ∈ names, asset.name ≠ .text name) with
    | false => rfl
    | true => rfl

theorem wanted_eq_kept {assets : List Asset} (h : ∀ asset ∈ assets, asset.HasName)
    (kind : AssetKind) : inventory.wanted kind assets = .ok (inventory.kept kind assets) := by
  unfold wanted kept
  split
  · rfl
  · exact withoutNames_eq_filter h _

theorem decide_ne_of_isNamed {names : List String} {asset : Asset} {named : Bool}
    (h : isNamed names asset = .ok named) :
    decide (∀ name ∈ names, asset.name ≠ .text name) = !named := by
  obtain ⟨name, hwritten, h⟩ := Traversal.bind_eq_ok h
  obtain rfl := Value.eq_of_written hwritten
  obtain ⟨key, hkey, h⟩ := Traversal.bind_eq_ok h
  have hname := Value.eq_scalar_of_asKey hkey
  cases key with
  | text s =>
    cases h
    simp [hname, Value.text, List.forall_mem_ne]
  | null | bool b | int n | float x | date day | moment time =>
    cases h
    simp [hname, Value.text]

theorem eq_filter_of_withoutNames {names : List String} {assets others : List Asset}
    (h : withoutNames names assets = .ok others) :
    others = assets.filter fun asset ↦ ∀ name ∈ names, asset.name ≠ .text name := by
  induction assets generalizing others with
  | nil =>
    cases h
    rfl
  | cons asset rest ih =>
    obtain ⟨named, hnamed, h⟩ := Traversal.bind_eq_ok h
    obtain ⟨later, hlater, h⟩ := Traversal.bind_eq_ok h
    have hdecide : decide (∀ name ∈ names, asset.name ≠ .text name) = !named :=
      decide_ne_of_isNamed hnamed
    rw [List.filter_cons, hdecide, ← ih hlater]
    cases named with
    | false =>
      cases h
      rfl
    | true =>
      cases h
      rfl

/-- What is kept when names are compared is as if the names were all keys. -/
theorem eq_kept_of_wanted {kind : AssetKind} {assets others : List Asset}
    (h : inventory.wanted kind assets = .ok others) : others = inventory.kept kind assets := by
  unfold wanted at h
  unfold kept
  split at h
  · rename_i hwanted
    cases h
    rw [if_pos hwanted]
  · rename_i hwanted
    rw [if_neg hwanted]
    exact eq_filter_of_withoutNames h

/-- When names can be compared, a kind is learnt exactly when its fetch succeeds. -/
theorem load_eq (hnames : inventory.source.GivesNames) (kind : AssetKind) (state : σ) :
    inventory.load kind state =
      (((inventory.source.fetch kind).run state).1.map (inventory.kept kind),
        ((inventory.source.fetch kind).run state).2) := by
  unfold load
  rcases hfetch : (inventory.source.fetch kind).run state with ⟨fault | assets, after⟩
  · rfl
  · have hwanted := inventory.wanted_eq_kept
      (hnames kind state assets (congrArg Prod.fst hfetch)) kind
    exact Prod.ext hwanted rfl

/-! ## What the log says about an inventory -/

/-- The fetches of an inventory that has started with a source, with their answers. -/
def log (start : σ) (s : InventoryState σ) : List (AssetKind × Except Fault (List Asset)) :=
  inventory.source.answers (fetchedKinds s.activities) start

/-- The log of an inventory accounts for its source and for the primary kinds that it knows. -/
structure Recorded (start : σ) (s : InventoryState σ) : Prop where
  source_eq : s.source = inventory.source.replay (fetchedKinds s.activities) start
  /-- A primary kind is known exactly when a fetch of it has succeeded. -/
  known_iff : ∀ kind, kind.isDerived = false → ∀ assets, known? s.known kind = some assets ↔
    ∃ answer, (kind, .ok answer) ∈ inventory.log start s ∧ inventory.kept kind answer = assets
  /-- A kind is fetched again only after a fetch in vain. -/
  again : (inventory.log start s).Pairwise fun earlier later ↦
    earlier.1 = later.1 → ∃ fault, earlier.2 = .error fault
  /-- Derived kinds are made of the primary ones. -/
  derivation : ∀ kind, kind.isDerived = true → ∀ assets, known? s.known kind = some assets →
    inventory.Derivation s.known kind assets

variable {inventory} {start : σ} {s t : InventoryState σ} {kind : AssetKind}

theorem Recorded.initial : inventory.Recorded start { source := start } where
  source_eq := rfl
  known_iff kind _ assets := by
    constructor
    · intro h
      cases h
    · rintro ⟨answer, hmem, -⟩
      cases hmem
  again := List.Pairwise.nil
  derivation kind _ assets h := by cases h

section

variable (h : inventory.Recorded start s)

include h

/-- A kind that is not known has only been fetched in vain. -/
theorem Recorded.fetched_in_vain (hprimary : kind.isDerived = false)
    (hunknown : known? s.known kind = none) :
    ∀ entry ∈ inventory.log start s, entry.1 = kind → ∃ fault, entry.2 = .error fault := by
  rintro ⟨other, result⟩ hmem rfl
  cases result with
  | error fault => exact ⟨fault, rfl⟩
  | ok answer =>
    have hknown := (h.known_iff _ hprimary _).2 ⟨answer, hmem, rfl⟩
    rw [hunknown] at hknown
    cases hknown

variable (ht : t.activities = s.activities ++ [.fetched kind])

include ht

theorem Recorded.log_fetch : inventory.log start t =
    inventory.log start s ++ [(kind, ((inventory.source.fetch kind).run s.source).1)] := by
  rw [log, ht, fetchedKinds_concat, AssetSource.answers_concat, ← h.source_eq]
  rfl

theorem Recorded.source_fetch : inventory.source.replay (fetchedKinds t.activities) start =
    ((inventory.source.fetch kind).run s.source).2 := by
  rw [ht, fetchedKinds_concat, AssetSource.replay_concat, ← h.source_eq]

theorem Recorded.again_fetch (hprimary : kind.isDerived = false)
    (hunknown : known? s.known kind = none) :
    (inventory.log start t).Pairwise fun earlier later ↦
      earlier.1 = later.1 → ∃ fault, earlier.2 = .error fault := by
  rw [h.log_fetch ht, List.pairwise_append]
  refine ⟨h.again, List.pairwise_singleton _ _, ?_⟩
  intro earlier hearlier later hlater hsame
  rw [List.mem_singleton.1 hlater] at hsame
  exact h.fetched_in_vain hprimary hunknown earlier hearlier hsame

end

theorem Derivation.append {known : Knowledge} {assets : List Asset}
    (h : inventory.Derivation known kind assets) (more : Knowledge) :
    inventory.Derivation (known ++ more) kind assets := by
  cases h with
  | noPairs hnodes hempty => exact .noPairs (known?_append_of_some hnodes more) hempty
  | pairs hnodes hpods =>
    exact .pairs (known?_append_of_some hnodes more) (known?_append_of_some hpods more)
  | dependencies hwideBindings hwideRoles hbindings hroles hnodes hpods hclusterWide hnamespaced =>
    exact .dependencies (known?_append_of_some hwideBindings more)
      (known?_append_of_some hwideRoles more) (known?_append_of_some hbindings more)
      (known?_append_of_some hroles more) (known?_append_of_some hnodes more)
      (known?_append_of_some hpods more) hclusterWide hnamespaced

theorem Derivation.isDerived {known : Knowledge} {assets : List Asset}
    (h : inventory.Derivation known kind assets) : kind.isDerived = true := by
  cases h with
  | noPairs => rfl
  | pairs => rfl
  | dependencies => rfl

/-- A fetch that succeeds keeps the account. -/
theorem Recorded.fetched (h : inventory.Recorded start s) (hprimary : kind.isDerived = false)
    (hunknown : known? s.known kind = none) {answer : List Asset}
    (hanswer : ((inventory.source.fetch kind).run s.source).1 = .ok answer) :
    inventory.Recorded start ((s.afterFetch kind ((inventory.source.fetch kind).run s.source).2).knowing
      kind (inventory.kept kind answer)) := by
  have hlog := h.log_fetch (t := (s.afterFetch kind
    ((inventory.source.fetch kind).run s.source).2).knowing kind (inventory.kept kind answer)) rfl
  rw [hanswer] at hlog
  refine ⟨(h.source_fetch rfl).symm, ?_, h.again_fetch rfl hprimary hunknown, ?_⟩
  · intro other hother assets
    rw [hlog, InventoryState.knowing_known, InventoryState.afterFetch_known]
    by_cases hsame : kind = other
    · subst hsame
      rw [known?_append_self hunknown]
      constructor
      · intro hassets
        exact ⟨answer, List.mem_append_right _ List.mem_cons_self, Option.some.inj hassets⟩
      · rintro ⟨other, hmem, rfl⟩
        -- An earlier success would have made the kind known.
        rcases List.mem_append.1 hmem with hold | hnew
        · obtain ⟨fault, hfault⟩ := h.fetched_in_vain hprimary hunknown _ hold rfl
          cases hfault
        · cases List.mem_singleton.1 hnew
          rfl
    · rw [known?_append_of_ne hsame, h.known_iff other hother]
      simp [Ne.symm hsame]
  · intro other hother assets hassets
    -- What is fetched is primary, so the derived kinds are known as before.
    have hne : kind ≠ other := by
      rintro rfl
      rw [hprimary] at hother
      cases hother
    rw [InventoryState.knowing_known, InventoryState.afterFetch_known, known?_append_of_ne hne]
      at hassets
    exact (h.derivation other hother assets hassets).append _

/-- A fetch in vain keeps the account. -/
theorem Recorded.failed (h : inventory.Recorded start s) (hprimary : kind.isDerived = false)
    (hunknown : known? s.known kind = none) {fault : Fault}
    (hfault : ((inventory.source.fetch kind).run s.source).1 = .error fault) :
    inventory.Recorded start
      (s.afterFetch kind ((inventory.source.fetch kind).run s.source).2) := by
  have hlog := h.log_fetch (t := s.afterFetch kind ((inventory.source.fetch kind).run s.source).2) rfl
  rw [hfault] at hlog
  refine ⟨(h.source_fetch rfl).symm, ?_, h.again_fetch rfl hprimary hunknown, h.derivation⟩
  intro other hother assets
  rw [hlog, InventoryState.afterFetch_known, h.known_iff other hother]
  simp

/-- Making a derived kind keeps the account. -/
theorem Recorded.derived (h : inventory.Recorded start s) (hunknown : known? s.known kind = none)
    {assets : List Asset} (hassets : inventory.Derivation s.known kind assets) :
    inventory.Recorded start (s.knowing kind assets) := by
  refine ⟨h.source_eq, ?_, h.again, ?_⟩
  · intro other hother others
    have hne : kind ≠ other := by
      rintro rfl
      rw [hassets.isDerived] at hother
      cases hother
    rw [InventoryState.knowing_known, known?_append_of_ne hne]
    exact h.known_iff other hother others
  · intro other hother others hothers
    rw [InventoryState.knowing_known] at hothers ⊢
    by_cases hsame : kind = other
    · subst hsame
      rw [known?_append_self hunknown] at hothers
      rw [← Option.some.inj hothers]
      exact hassets.append _
    · rw [known?_append_of_ne hsame] at hothers
      exact (h.derivation other hother others hothers).append _

/-- The assets that are known of a primary kind are of that kind. -/
theorem Recorded.known_kind (h : inventory.Recorded start s) (hkinds : inventory.source.GivesKinds)
    (hprimary : kind.isDerived = false) {assets : List Asset}
    (hassets : known? s.known kind = some assets) : ∀ asset ∈ assets, asset.kind = kind := by
  obtain ⟨answer, hmem, rfl⟩ := (h.known_iff kind hprimary assets).1 hassets
  obtain ⟨state, hfetch⟩ := AssetSource.exists_run_of_mem_answers _ hmem
  intro asset hasset
  exact hkinds kind state answer hfetch asset (inventory.mem_of_mem_kept hasset)

/-- Steps keep the account. -/
theorem Recorded.step (hnames : inventory.source.GivesNames) (h : inventory.Recorded start s)
    (hstep : inventory.Step s kind t) : inventory.Recorded start t := by
  cases hstep with
  | fetched hprimary hunknown hload =>
    rw [load_eq inventory hnames] at hload
    obtain ⟨hresult, rfl⟩ := Prod.mk.inj hload
    obtain ⟨answer, hanswer, rfl⟩ := Traversal.map_eq_ok hresult
    exact h.fetched hprimary hunknown hanswer
  | failed hprimary hunknown hload =>
    rw [load_eq inventory hnames] at hload
    obtain ⟨hresult, rfl⟩ := Prod.mk.inj hload
    cases hfetch : ((inventory.source.fetch kind).run s.source).1 with
    | ok answer =>
      rw [hfetch] at hresult
      cases hresult
    | error fault => exact h.failed hprimary hunknown hfetch
  | derived hunknown hassets => exact h.derived hunknown hassets

end Inventory

end ClusterAudit
