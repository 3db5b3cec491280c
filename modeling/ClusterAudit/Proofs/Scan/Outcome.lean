import ClusterAudit.Proofs.Inventory.Consistency
import ClusterAudit.Proofs.Inventory.Table
import ClusterAudit.Proofs.Scan.Stages

/-!
# Outcomes over fixed contents

A scan of a source with fixed contents ends alike in every state that an inventory of this source
can reach, by requests and by other scans.
-/

namespace ClusterAudit.Scan

open Inventory Manifest SourceM

variable {σ : Type}

/-! ## What the reports depend on -/

theorem publish_congr {α ρ : Type} (audience : Audience) (wrap : ρ → Report)
    {make other : α → Except Fault (Option ρ)} {items : List α}
    (h : ∀ item ∈ items, make item = other item) :
    publish audience wrap make items = publish audience wrap other items := by
  induction items with
  | nil => rfl
  | cons item rest ih =>
    rw [publish, publish, h item List.mem_cons_self,
      ih fun later hlater ↦ h later (List.mem_cons_of_mem item hlater)]

/-- Reports depend only on the assets of the kinds that the detectors look at. -/
theorem conclude_congr (config : AuditConfig) (audience : Audience)
    {stored other : AssetKind → List Asset}
    (h : ∀ kind ∈ Detector.assetKinds config.detectors, stored kind = other kind) :
    conclude config audience stored = conclude config audience other := by
  have hdetector : ∀ detector ∈ config.detectors,
      some <$> detectorReport stored detector = some <$> detectorReport other detector := by
    intro detector hdetector
    have hassets : detector.kinds.flatMap stored = detector.kinds.flatMap other := by
      apply List.flatMap_congr
      intro kind hkind
      exact h kind (Detector.mem_assetKinds.2 ⟨detector, hdetector, hkind⟩)
    rw [detectorReport, detectorReport, hassets]
  unfold conclude
  rw [List.flatMap_congr h, publish_congr audience .ofDetector hdetector]

/-! ## Scans take steps -/

/-- Whether the table has all that detectors need, or the fault of the first kind that it lacks. -/
def provided (inventory : Inventory σ) (contents : AssetKind → Except Fault (List Value))
    (detectors : List Detector) : Except Fault Unit := do
  let _ ← (requiredKinds (Detector.assetKinds detectors)).mapM (inventory.table contents)
  let _ ← (Detector.assetKinds detectors).mapM (inventory.table contents)
  return ()

theorem learn_steps {inventory : Inventory σ} (detectors : List Detector) (s : InventoryState σ) :
    inventory.Steps (fun _ ↦ True) s ((learn inventory detectors).run s).2 := by
  unfold learn
  dsimp only
  rw [run_bind]
  rcases hfirst : (inventory.prefetch (requiredKinds (Detector.assetKinds detectors))).run s with
    ⟨fault | _, u⟩
  · exact (prefetch_run_steps hfirst).1
  · exact (prefetch_run_steps hfirst).1.trans (prefetch_run_steps rfl).1

section

variable {inventory : Inventory σ} {list : AssetKind → SourceM σ (List Value)}
  {defaultNames : AssetKind → List String} {start : σ}
  {contents : AssetKind → Except Fault (List Value)} {s : InventoryState σ}
  (hsource : inventory.source = .ofManifests list defaultNames) (hfixed : Fixed list start contents)
  (h : inventory.Faithful list start contents s)

include hsource hfixed h

/-- A scan keeps to the table. -/
theorem faithful_run (config : AuditConfig) (audience : Audience) :
    inventory.Faithful list start contents ((run config inventory audience).run s).2 := by
  have hlearnt := h.steps hsource hfixed (learn_steps config.detectors s)
  rw [run_run]
  rcases hlearn : (learn inventory config.detectors).run s with ⟨fault | _, t⟩
  · rw [hlearn] at hlearnt
    exact hlearnt
  · rw [hlearn] at hlearnt
    exact ⟨hlearnt.source_listed, hlearnt.known_eq⟩

/-- Learning succeeds or fails as the table does. -/
theorem learn_result (detectors : List Detector) :
    ((learn inventory detectors).run s).1 = provided inventory contents detectors := by
  have hneeded := h.prefetch_run hsource hfixed
    fun kind (hkind : kind ∈ requiredKinds (Detector.assetKinds detectors)) ↦
      .inl (requiredKinds_primary hkind)
  unfold learn provided
  dsimp only
  rw [run_bind]
  rcases hfirst : (inventory.prefetch (requiredKinds (Detector.assetKinds detectors))).run s with
    ⟨result, u⟩
  rw [hfirst] at hneeded
  dsimp only at hneeded
  rw [hneeded]
  cases htable : (requiredKinds (Detector.assetKinds detectors)).mapM (inventory.table contents) with
  | error fault => rfl
  | ok found =>
    rw [hneeded, htable] at hfirst
    obtain ⟨hsteps, hknown⟩ := prefetch_run_steps hfirst
    have hu : inventory.Faithful list start contents u := h.steps hsource hfixed hsteps
    -- All primary kinds are known by now, so every kind can be served.
    have hkinds : ∀ kind ∈ Detector.assetKinds detectors,
        kind.isDerived = false ∨ SourcesKnown u.known kind := fun kind hkind ↦ .inr fun source hmem ↦
      hknown () rfl source (mem_requiredKinds.2 ⟨kind, hkind, hmem⟩)
    exact hu.prefetch_run hsource hfixed hkinds

/-- What a scan ends with does not depend on the state in which it starts. -/
theorem run_result (config : AuditConfig) (audience : Audience) :
    ((run config inventory audience).run s).1 =
      (provided inventory contents config.detectors >>= fun _ ↦
        (conclude config audience fun kind ↦ (inventory.table contents kind).toOption.getD []).1) := by
  have hresult := learn_result hsource hfixed h config.detectors
  have hlearnt := h.steps hsource hfixed (learn_steps config.detectors s)
  rw [run_run, ← hresult]
  rcases hlearn : (learn inventory config.detectors).run s with ⟨fault | _, t⟩
  · rfl
  · rw [hlearn] at hlearnt
    have hrecalled : ∀ kind ∈ Detector.assetKinds config.detectors,
        recalled t.known kind = (inventory.table contents kind).toOption.getD [] := by
      intro kind hkind
      obtain ⟨assets, hassets⟩ := learn_known hlearn kind hkind
      rw [recalled, hassets, hlearnt.known_eq kind assets hassets]
      rfl
    exact congrArg Prod.fst (conclude_congr config audience hrecalled)

end

end ClusterAudit.Scan
