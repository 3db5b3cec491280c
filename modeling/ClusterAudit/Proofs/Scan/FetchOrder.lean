import ClusterAudit.Proofs.Scan.Stages

/-!
# Fetches come before reports

What a scan does to the outside is a row of fetches followed by a row of reports.  The fetches are
those of the required kinds that are not known, up to the first one that fails, and nothing is
reported unless everything was learnt.  Kinds that are not required play no part.
-/

namespace ClusterAudit.Scan

open Inventory

variable {σ : Type}

/-! ## Kinds that play no part -/

section

variable {inventory : Inventory σ} {other : AssetSource σ}
  (hnames : other.defaultNames = inventory.source.defaultNames)

include hnames

theorem harvest_congr {kinds : List AssetKind}
    (hfetch : ∀ kind ∈ kinds, other.fetch kind = inventory.source.fetch kind) (source : σ) :
    ({ inventory with source := other } : Inventory σ).harvest kinds source =
      inventory.harvest kinds source := by
  induction kinds generalizing source with
  | nil => rfl
  | cons kind rest ih =>
    have hwanted : ({ inventory with source := other } : Inventory σ).wanted kind =
        inventory.wanted kind := by
      funext assets
      simp only [wanted, hnames]
    have hload : ({ inventory with source := other } : Inventory σ).load kind source =
        inventory.load kind source := by
      simp only [load, hfetch kind List.mem_cons_self, hwanted]
    have hrest := ih fun later hlater ↦ hfetch later (List.mem_cons_of_mem kind hlater)
    unfold harvest
    rw [hload]
    rcases inventory.load kind source with ⟨_ | assets, after⟩
    · rfl
    · dsimp only
      rw [hrest]

theorem compute_congr (kinds : List AssetKind) (known : Knowledge) :
    ({ inventory with source := other } : Inventory σ).compute kinds known =
      inventory.compute kinds known := by
  have hderive (stored : AssetKind → List Asset) (kind : AssetKind) :
      ({ inventory with source := other } : Inventory σ).derive stored kind =
        inventory.derive stored kind := by
    cases kind with
    | escalationDependency => simp only [derive, hnames]
    | _ => rfl
  induction kinds generalizing known with
  | nil => rfl
  | cons kind rest ih =>
    unfold compute
    rw [hderive]
    simp only [ih]

/-- A scan does not depend on how kinds that it does not need are fetched. -/
theorem run_congr (config : AuditConfig) (audience : Audience)
    (hfetch : ∀ kind ∈ requiredKinds (Detector.assetKinds config.detectors),
      other.fetch kind = inventory.source.fetch kind) (s : InventoryState σ) :
    (run config { inventory with source := other } audience).run s =
      (run config inventory audience).run s := by
  have hlearn : (learn { inventory with source := other } config.detectors).run s =
      (learn inventory config.detectors).run s := by
    rw [learn_run, learn_run]
    dsimp only
    rw [harvest_congr hnames fun kind hkind ↦ hfetch kind (List.mem_filter.1 hkind).1,
      compute_congr hnames]
  rw [run_run, run_run, hlearn]

end

/-! ## The order of activities -/

/-- The required kinds of a scan that are not known, in the order in which they are fetched. -/
def todo (detectors : List Detector) (known : Knowledge) : List AssetKind :=
  (requiredKinds (Detector.assetKinds detectors)).filter (isUnknown known)

theorem learn_activities (inventory : Inventory σ) (detectors : List Detector) (s : InventoryState σ) :
    ((learn inventory detectors).run s).2.activities =
      s.activities ++ (inventory.harvest (todo detectors s.known) s.source).fetched.map .fetched := by
  rw [learn_run]
  dsimp only [todo]
  cases (inventory.harvest _ s.source).failure with
  | some failure => rfl
  | none => rfl

/-- Computing and reporting leave the source as the last fetch has left it. -/
theorem run_source (config : AuditConfig) (inventory : Inventory σ) (audience : Audience)
    (s : InventoryState σ) :
    ((run config inventory audience).run s).2.source =
      (inventory.harvest (todo config.detectors s.known) s.source).source := by
  rw [run_run, learn_run]
  dsimp only [todo]
  cases (inventory.harvest _ s.source).failure with
  | some failure => rfl
  | none =>
    dsimp only
    cases (inventory.compute _ _).1 with
    | error fault => rfl
    | ok _ => rfl

theorem learn_of_failure {inventory : Inventory σ} {detectors : List Detector} {s : InventoryState σ}
    {kind : AssetKind} {fault : Fault}
    (h : (inventory.harvest (todo detectors s.known) s.source).failure = some (kind, fault)) :
    ((learn inventory detectors).run s).1 = .error fault := by
  rw [learn_run]
  dsimp only [todo] at h ⊢
  rw [h]

theorem run_of_learn_error {config : AuditConfig} {inventory : Inventory σ} {s t : InventoryState σ}
    {fault : Fault} (h : (learn inventory config.detectors).run s = (.error fault, t))
    (audience : Audience) : (run config inventory audience).run s = (.error fault, t) := by
  rw [run_run, h]

/-- A scan fetches what learning fetches and then reports, and reports nothing when learning fails. -/
theorem run_activities (config : AuditConfig) (inventory : Inventory σ) (audience : Audience)
    (s : InventoryState σ) :
    ∃ reports : List Report,
      ((run config inventory audience).run s).2.activities =
        s.activities ++
          (inventory.harvest (todo config.detectors s.known) s.source).fetched.map .fetched
          ++ reports.map .reported ∧
      ∀ fault, ((learn inventory config.detectors).run s).1 = .error fault →
        ((run config inventory audience).run s).1 = .error fault ∧ reports = [] := by
  rw [← learn_activities]
  rcases hlearn : (learn inventory config.detectors).run s with ⟨fault | _, t⟩
  · refine ⟨[], ?_, ?_⟩
    · rw [run_of_learn_error hlearn, List.map_nil, List.append_nil]
    · intro other h
      cases h
      rw [run_of_learn_error hlearn]
      exact ⟨rfl, rfl⟩
  · refine ⟨(conclude config audience (recalled t.known)).2, ?_, ?_⟩
    · rw [run_run, hlearn]
      rfl
    · intro fault h
      cases h

/-- A new inventory fetches all required kinds of a scan in a row. -/
theorem prefetch_required_run (inventory : Inventory σ) (detectors : List Detector) (source : σ) :
    (inventory.prefetch (requiredKinds (Detector.assetKinds detectors))).run { source } =
      let gained := inventory.harvest (requiredKinds (Detector.assetKinds detectors)) source
      (gained.result, ⟨gained.source, gained.learnt, gained.fetched.map .fetched⟩) := by
  have hall : (requiredKinds (Detector.assetKinds detectors)).filter (isUnknown []) =
      requiredKinds (Detector.assetKinds detectors) :=
    List.filter_eq_self.2 fun kind _ ↦ rfl
  rw [inventory.prefetch_run_primary (fun kind hkind ↦ requiredKinds_primary hkind)
    (requiredKinds_nodup _)]
  dsimp only
  rw [hall, List.nil_append, List.nil_append]

/-- After its kinds were prefetched, a scan has nothing left to fetch. -/
theorem todo_after_prefetch {inventory : Inventory σ} {detectors : List Detector}
    {s t : InventoryState σ}
    (h : (inventory.prefetch (requiredKinds (Detector.assetKinds detectors))).run s = (.ok (), t)) :
    todo detectors t.known = [] := by
  rw [inventory.prefetch_run_primary (fun kind hkind ↦ requiredKinds_primary hkind)
    (requiredKinds_nodup _)] at h
  obtain ⟨hresult, rfl⟩ := Prod.mk.inj h
  have hfailure := Harvest.failure_of_ok hresult
  rw [todo, List.filter_eq_nil_iff]
  intro kind hkind hunknown
  obtain ⟨assets, hassets⟩ := inventory.known?_append_harvest hfailure hkind
  rw [isUnknown, hassets] at hunknown
  cases hunknown

end ClusterAudit.Scan
