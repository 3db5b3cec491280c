import ClusterAudit.Proofs.Inventory.Learning
import ClusterAudit.Scan.Run

/-!
# The stages of a scan

A scan first fetches the primary kinds that it needs, then computes the derived ones, and only then
reports.  Each stage is given here as a function of what is known, and running a scan is these three
functions one after another.
-/

namespace ClusterAudit.Scan

open Inventory SourceM

variable {σ : Type}

/-! ## Learning -/

/-- Learning fetches what is not known, and computes only when no fetch has failed. -/
theorem learn_run (inventory : Inventory σ) (detectors : List Detector) (s : InventoryState σ) :
    (learn inventory detectors).run s =
      let kinds := Detector.assetKinds detectors
      let gained := inventory.harvest ((requiredKinds kinds).filter (isUnknown s.known)) s.source
      let computed := inventory.compute kinds (s.known ++ gained.learnt)
      let activities := s.activities ++ gained.fetched.map .fetched
      match gained.failure with
      | some (_, fault) => (.error fault, ⟨gained.source, s.known ++ gained.learnt, activities⟩)
      | none => (computed.1, ⟨gained.source, computed.2, activities⟩) := by
  have hfetch := inventory.prefetch_run_primary
    (fun kind (hkind : kind ∈ requiredKinds (Detector.assetKinds detectors)) ↦
      requiredKinds_primary hkind)
    (requiredKinds_nodup _) s
  unfold learn
  dsimp only
  rw [run_bind, hfetch]
  dsimp only [Harvest.result]
  cases hfailure : (inventory.harvest _ s.source).failure with
  | some failure => rfl
  | none =>
    -- No required kind is missing, so the second round only computes.
    have hsources : ∀ kind ∈ Detector.assetKinds detectors, SourcesKnown (s.known ++
        (inventory.harvest ((requiredKinds (Detector.assetKinds detectors)).filter
          (isUnknown s.known)) s.source).learnt) kind := by
      intro kind hkind source hsource
      exact inventory.known?_append_harvest hfailure (mem_requiredKinds.2 ⟨kind, hkind, hsource⟩)
    dsimp only
    rw [inventory.prefetch_run_of_sourcesKnown hsources]

/-! ## Reporting -/

def reporting (s : InventoryState σ) (reports : List Report) : InventoryState σ :=
  { s with activities := s.activities ++ reports.map .reported }

theorem reporting_nil (s : InventoryState σ) : reporting s [] = s := by
  simp [reporting]

theorem reporting_cons (s : InventoryState σ) (report : Report) (reports : List Report) :
    reporting (reporting s [report]) reports = reporting s (report :: reports) := by
  simp [reporting]

/-- Makes reports one after another and hands them on, up to the first fault. -/
def publish {α ρ : Type} (audience : Audience) (wrap : ρ → Report)
    (make : α → Except Fault (Option ρ)) : List α → Except Fault (List ρ) × List Report
  | [] => (.ok [], [])
  | item :: rest =>
    match make item with
    | .error fault => (.error fault, [])
    | .ok none => publish audience wrap make rest
    | .ok (some report) =>
      match audience (wrap report) with
      | some fault => (.error fault, [wrap report])
      | none =>
        let later := publish audience wrap make rest
        (later.1.map (report :: ·), wrap report :: later.2)

/-- The report of a detector about the assets of its kinds. -/
def detectorReport (stored : AssetKind → List Asset) (detector : Detector) :
    Except Fault DetectorReport := do
  let findings ← findingsOfDetector detector (detector.kinds.flatMap stored)
  return { detector, findings, result := Tally.ofFindings findings }

/-- The report of detectors about an asset, if they find anything. -/
def assetReport? (detectors : List Detector) (asset : Asset) : Except Fault (Option AssetReport) := do
  let findings ← findingsAgainst detectors asset
  return if findings.isEmpty then none else some { asset, findings }

/-- What a configured scan ends with and what it reports, given the assets of each kind. -/
def conclude (config : AuditConfig) (audience : Audience) (stored : AssetKind → List Asset) :
    Except Fault ScanOutcome × List Report :=
  if config.groupByAsset then
    let assets := (Detector.assetKinds config.detectors).flatMap stored
    let published := publish audience .ofAsset (assetReport? config.detectors) assets
    (published.1.map fun reports ↦
      ⟨Tally.ofFindings (reports.flatMap (·.findings)), .byAsset reports⟩, published.2)
  else
    let published := publish audience .ofDetector
      (fun detector ↦ some <$> detectorReport stored detector) config.detectors
    (published.1.map fun reports ↦
      ⟨(reports.map (·.result)).foldl Tally.merge {}, .byDetector reports⟩, published.2)

theorem handOn_run (audience : Audience) (report : Report) (s : InventoryState σ) :
    (handOn audience report).run s =
      match audience report with
      | some fault => (.error fault, reporting s [report])
      | none => (.ok (), reporting s [report]) := by
  rw [handOn, run_bind_of_ok (run_note _ s)]
  cases audience report with
  | some fault => rfl
  | none => rfl

/-- Handing on a report before the others. -/
theorem handOn_first_run {ρ : Type} (audience : Audience) (report : Report) (item : ρ)
    {others : InventoryM σ (List ρ)} {s : InventoryState σ}
    {later : Except Fault (List ρ) × List Report}
    (h : others.run (reporting s [report]) = (later.1, reporting (reporting s [report]) later.2)) :
    (do handOn audience report; let items ← others; return item :: items : InventoryM σ _).run s =
      match audience report with
      | some fault => (.error fault, reporting s [report])
      | none => (later.1.map (item :: ·), reporting s (report :: later.2)) := by
  rw [run_bind, handOn_run]
  cases audience report with
  | some fault => rfl
  | none =>
    dsimp only
    rw [run_bind, h, reporting_cons]
    cases later.1 with
    | error fault => rfl
    | ok items => rfl

theorem runDetector_run (inventory : Inventory σ) {detector : Detector} {s : InventoryState σ}
    (h : ∀ kind ∈ detector.kinds, ∃ assets, known? s.known kind = some assets) :
    (runDetector inventory detector).run s = (detectorReport (recalled s.known) detector, s) := by
  rw [runDetector, run_bind_of_ok (inventory.getAssets_run_of_known h), run_bind, run_lift,
    detectorReport]
  cases findingsOfDetector detector (detector.kinds.flatMap (recalled s.known)) with
  | error fault => rfl
  | ok findings => rfl

/-- Detectors whose kinds are known are run without changing what is known. -/
theorem runDetectors_run (inventory : Inventory σ) (audience : Audience) {detectors : List Detector}
    {s : InventoryState σ}
    (h : ∀ detector ∈ detectors, ∀ kind ∈ detector.kinds,
      ∃ assets, known? s.known kind = some assets) :
    (runDetectors inventory audience detectors).run s =
      let published := publish audience .ofDetector
        (fun detector ↦ some <$> detectorReport (recalled s.known) detector) detectors
      (published.1, reporting s published.2) := by
  induction detectors generalizing s with
  | nil =>
    dsimp only [publish]
    rw [reporting_nil, runDetectors, run_pure]
  | cons detector rest ih =>
    rw [runDetectors, run_bind, runDetector_run inventory (h detector List.mem_cons_self), publish]
    cases detectorReport (recalled s.known) detector with
    | error fault => exact Prod.ext rfl (reporting_nil s).symm
    | ok report =>
      have hlater := ih (s := reporting s [.ofDetector report]) fun other hother ↦
        h other (List.mem_cons_of_mem detector hother)
      dsimp only
      rw [handOn_first_run audience (.ofDetector report) report hlater]
      simp only [Except.map_ok]
      cases audience (.ofDetector report) with
      | some fault => rfl
      | none => rfl

/-- Assets are reported without changing what is known. -/
theorem runAssets_run (detectors : List Detector) (audience : Audience) (assets : List Asset)
    (s : InventoryState σ) :
    (runAssets detectors audience assets).run s =
      let published := publish audience .ofAsset (assetReport? detectors) assets
      (published.1, reporting s published.2) := by
  induction assets generalizing s with
  | nil =>
    dsimp only [publish]
    rw [reporting_nil, runAssets, run_pure]
  | cons asset rest ih =>
    rw [runAssets, run_bind, run_lift, publish]
    cases hfindings : findingsAgainst detectors asset with
    | error fault =>
      have hmake : assetReport? detectors asset = .error fault := by rw [assetReport?, hfindings]; rfl
      rw [hmake]
      exact Prod.ext rfl (reporting_nil s).symm
    | ok findings =>
      have hmake : assetReport? detectors asset =
          .ok (if findings.isEmpty then none else some ⟨asset, findings⟩) := by
        rw [assetReport?, hfindings]
        rfl
      rw [hmake]
      dsimp only
      cases hempty : findings.isEmpty with
      | true => exact ih s
      | false =>
        have hlater := ih (reporting s [.ofAsset ⟨asset, findings⟩])
        simp only [Bool.false_eq_true, if_false]
        rw [handOn_first_run audience _ _ hlater]
        cases audience (.ofAsset ⟨asset, findings⟩) with
        | some fault => rfl
        | none => rfl

/-! ## Whole scans -/

/-- After learning, every kind of every detector is known. -/
theorem learn_known {inventory : Inventory σ} {detectors : List Detector} {s t : InventoryState σ}
    (h : (learn inventory detectors).run s = (.ok (), t)) :
    ∀ kind ∈ Detector.assetKinds detectors, ∃ assets, known? t.known kind = some assets := by
  rw [learn_run] at h
  dsimp only at h
  cases hfailure : (inventory.harvest _ s.source).failure with
  | some failure =>
    rw [hfailure] at h
    cases h
  | none =>
    rw [hfailure] at h
    obtain ⟨hcomputed, rfl⟩ := Prod.mk.inj h
    exact inventory.known?_compute_of_ok hcomputed

/-- A scan learns and then reports on what is known. -/
theorem run_run (config : AuditConfig) (inventory : Inventory σ) (audience : Audience)
    (s : InventoryState σ) :
    (run config inventory audience).run s =
      match (learn inventory config.detectors).run s with
      | (.error fault, t) => (.error fault, t)
      | (.ok (), t) =>
        let concluded := conclude config audience (recalled t.known)
        (concluded.1, reporting t concluded.2) := by
  unfold run
  rw [run_bind]
  rcases hlearn : (learn inventory config.detectors).run s with ⟨_ | _, t⟩
  · rfl
  · have hknown := learn_known hlearn
    have hkinds : ∀ detector ∈ config.detectors, ∀ kind ∈ detector.kinds,
        ∃ assets, known? t.known kind = some assets := by
      intro detector hdetector kind hkind
      exact hknown kind (Detector.mem_assetKinds.2 ⟨detector, hdetector, hkind⟩)
    dsimp only
    unfold conclude
    split
    · rw [run_bind_of_ok (inventory.getAssets_run_of_known hknown), run_bind, runAssets_run]
      dsimp only
      cases (publish audience .ofAsset (assetReport? config.detectors) _).1 with
      | error fault => rfl
      | ok reports => rfl
    · rw [run_bind, runDetectors_run inventory audience hkinds]
      dsimp only
      cases (publish audience .ofDetector _ config.detectors).1 with
      | error fault => rfl
      | ok reports => rfl

end ClusterAudit.Scan
