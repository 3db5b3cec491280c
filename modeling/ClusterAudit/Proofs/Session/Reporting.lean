import ClusterAudit.Proofs.Scan.Writing
import ClusterAudit.Proofs.Session.Playing
import ClusterAudit.Proofs.Session.Scanning

/-!
# Scans at a scene

A scan at a scene writes nothing: opening the snapshot or the cluster and scanning it only note what
is shown.  When it returns an outcome, what was printed last are the reports of that outcome and lines
that say its counts, and its document is JSON if the manifests are.
-/

namespace ClusterAudit.Session

open Manifest Inventory

variable {equipment : Equipment} {cluster after : Cluster} {scene reached : Scene}

/-! ## Steps that write nothing -/

theorem load_run (equipment : Equipment) (snapshot : Snapshot) (paths : List String) (scene : Scene) :
    (Snapshot.load (Scene.desk equipment).yaml (Scene.desk equipment).read snapshot paths).run scene =
      (Id.run (Snapshot.load equipment.yaml (fun path ↦ pure (scene.files.read path)) snapshot paths),
        scene) := by
  have hyaml : (Scene.desk equipment).yaml = equipment.yaml := rfl
  rw [hyaml]
  induction paths generalizing snapshot with
  | nil => rfl
  | cons path rest ih =>
    unfold Snapshot.load
    split
    · rfl
    · have hread : ((Scene.desk equipment).read (Path.ofText path)).run scene =
          pure (scene.files.read (Path.ofText path), scene) := rfl
      rw [StateT.run_bind, hread, pure_bind, pure_bind]
      dsimp only
      rcases (Snapshot.addFile equipment.yaml path
        (scene.files.read (Path.ofText path))).run snapshot with ⟨fault | _, loaded⟩
      · rfl
      · exact ih loaded

namespace NotesOnly

theorem openSnapshot (equipment : Equipment) (config : AuditConfig) :
    NotesOnly (fun _ ↦ True) (openSnapshot (Scene.desk equipment) config) := by
  have hload : NotesOnly (fun _ ↦ True)
      (atDesk (Snapshot.load (Scene.desk equipment).yaml (Scene.desk equipment).read {}
        config.snapshotFiles)) :=
    of_play fun cluster scene ↦ by rw [play_atDesk, load_run]
  refine hload.bind fun loaded ↦ (NotesOnly.orFault loaded).bind fun snapshot ↦ ?_
  exact (NotesOnly.display equipment trivial).bind fun _ ↦ .pure _

theorem openCluster (equipment : Equipment) :
    NotesOnly (fun _ ↦ True) (openCluster (Scene.desk equipment)) := by
  refine NotesOnly.get.bind fun cluster ↦ (NotesOnly.set _).bind fun _ ↦ ?_
  exact (NotesOnly.orFault _).bind fun method ↦ .display equipment trivial

theorem scan {σ : Type} (equipment : Equipment) (config : AuditConfig) (source : AssetSource σ)
    (start : σ) {keep : σ → SessionM (StateM Scene) Unit}
    (hkeep : ∀ s, NotesOnly (fun _ ↦ True) (keep s)) :
    NotesOnly (fun _ ↦ True) (scan (Scene.desk equipment) config source start keep) := by
  refine (NotesOnly.display equipment trivial).bind fun _ ↦ (hkeep _).bind fun _ ↦ ?_
  refine (NotesOnly.orFault _).bind fun _ ↦ (NotesOnly.display equipment trivial).bind fun _ ↦ ?_
  refine (hkeep _).bind fun _ ↦ ?_
  refine (NotesOnly.present equipment _ fun _ ↦ trivial).bind fun _ ↦ ?_
  refine (NotesOnly.orFault _).bind fun outcome ↦ ?_
  refine (NotesOnly.present equipment _ fun _ ↦ trivial).bind fun fault ↦ ?_
  cases fault with
  | none => exact .pure _
  | some fault => exact .throw _

theorem scanConfigured (equipment : Equipment) (config : AuditConfig) :
    NotesOnly (fun _ ↦ True) (scanConfigured (Scene.desk equipment) config) := by
  unfold Session.scanConfigured
  split
  · refine (openCluster equipment).bind fun _ ↦ NotesOnly.get.bind fun cluster ↦ ?_
    exact scan equipment config _ cluster .set
  · refine (openSnapshot equipment config).bind fun snapshot ↦ ?_
    exact scan equipment config _ snapshot fun _ ↦ .pure _

end NotesOnly

/-! ## Scans that return -/

/-- An outcome that was reported: its counts are those of its findings, it has a document, which is
JSON, and the last items that were printed are its reports and lines that say its counts. -/
structure Reported (config : AuditConfig) (outcome : ScanOutcome) (printed : List Console.Printed) :
    Prop where
  accounted : Scan.Accounted config outcome
  ofOutcome_eq : ∀ madeAt, Document.ofOutcome outcome madeAt = .ok (Document.draft outcome madeAt)
  isJson_draft : ∀ madeAt, (Document.draft outcome madeAt).isJson = true
  shown : ∃ closing,
    closing.map Console.styledText? =
      (Console.summaryTexts outcome.result.vulnerabilities outcome.result.warnings).map some ∧
    (Console.printReports ⟨config.quiet, config.color⟩ outcome.reports.each).items ++ closing <:+ printed

theorem reportsOf_append (activities : List Activity) (kinds : List AssetKind)
    (reports : List Report) :
    reportsOf (activities ++ kinds.map .fetched ++ reports.map .reported) =
      reportsOf activities ++ reports := by
  simp [reportsOf, List.filterMap_map]

/-- Nothing is reported while the required kinds are learnt. -/
theorem reportsOf_prefetch {σ : Type} {inventory : Inventory σ} {detectors : List Detector}
    {start : σ} {learnt : Except Fault Unit} {known : InventoryState σ}
    (h : (inventory.prefetch (requiredKinds (Detector.assetKinds detectors))).run
      { source := start } = (learnt, known)) : reportsOf known.activities = [] := by
  rw [Scan.prefetch_required_run] at h
  obtain ⟨-, rfl⟩ := Prod.mk.inj h
  simp [reportsOf, List.filterMap_map]

/-- The reports of a scan that returns are those of its outcome. -/
theorem reportsOf_run {σ : Type} {inventory : Inventory σ} {config : AuditConfig}
    {audience : Scan.Audience} {s done : InventoryState σ} {outcome : ScanOutcome}
    (h : (Scan.run config inventory audience).run s = (.ok outcome, done)) :
    reportsOf done.activities = reportsOf s.activities ++ outcome.reports.each := by
  have hfetched := Scan.learn_activities inventory config.detectors s
  rw [Scan.run_run] at h
  rcases hlearn : (Scan.learn inventory config.detectors).run s with ⟨fault | _, t⟩
  · rw [hlearn] at h
    cases h
  · rw [hlearn] at h hfetched
    obtain ⟨hconclude, rfl⟩ := Prod.mk.inj h
    rw [(Scan.taken_of_conclude hconclude).1]
    change reportsOf (t.activities ++ _) = _
    rw [hfetched]
    exact reportsOf_append ..

/-- A scan that returns has learnt the required kinds and run, and what it printed last are its
reports and its summary, as far as the console took them; it took all of the summary. -/
theorem exists_of_scan_ok {σ : Type} {config : AuditConfig} {source : AssetSource σ} {start : σ}
    {keep : σ → SessionM (StateM Scene) Unit} {outcome : ScanOutcome}
    (h : play (scan (Scene.desk equipment) config source start keep) cluster scene =
      ((.ok outcome, after), reached)) :
    let inventory : Inventory σ := ⟨source, config.includeDefaults⟩
    let settings : Console.Settings := ⟨config.quiet, config.color⟩
    ∃ learnt known done,
      (inventory.prefetch (requiredKinds (Detector.assetKinds config.detectors))).run
        { source := start } = (learnt, known) ∧
      (Scan.run config inventory (Console.audience settings equipment.screen)).run known =
        (.ok outcome, done) ∧
      ((Console.summary settings outcome.result).on equipment.screen).fault = none ∧
      ((Console.printReports settings (reportsOf done.activities)).on equipment.screen).items ++
        ((Console.summary settings outcome.result).on equipment.screen).items <:+ reached.items := by
  intro inventory settings
  unfold scan at h
  obtain ⟨_, _, _, -, h⟩ := exists_of_play_bind_ok h
  dsimp only at h
  rcases hprefetch : (inventory.prefetch _).run _ with ⟨learnt, known⟩
  rw [hprefetch] at h
  obtain ⟨_, _, _, -, h⟩ := exists_of_play_bind_ok h
  obtain ⟨_, _, _, -, h⟩ := exists_of_play_bind_ok h
  obtain ⟨_, _, _, -, h⟩ := exists_of_play_bind_ok h
  rcases hrun : (Scan.run config inventory _).run known with ⟨result, done⟩
  rw [hrun] at h
  obtain ⟨_, _, _, -, h⟩ := exists_of_play_bind_ok h
  obtain ⟨_, _, _, hreports, h⟩ := exists_of_play_bind_ok h
  rw [play_present] at hreports
  cases hreports
  obtain ⟨returned, _, _, hreturned, h⟩ := exists_of_play_bind_ok h
  obtain rfl := eq_ok_of_play_orFault hreturned
  cases hreturned
  obtain ⟨fault, _, _, hsummary, h⟩ := exists_of_play_bind_ok h
  rw [play_present] at hsummary
  obtain ⟨hended, rfl⟩ := Prod.mk.inj hsummary
  obtain ⟨hfault, rfl⟩ := Prod.mk.inj hended
  cases fault with
  | some fault => cases h
  | none =>
    cases h
    refine ⟨learnt, known, done, rfl, hrun, Except.ok.inj hfault, ?_⟩
    rw [Scene.items_noting_shown, Scene.items_noting_shown, List.append_assoc]
    exact List.suffix_append _ _

/-- A scan that returns has reported its outcome. -/
theorem reported_of_scan {σ : Type} {list : AssetKind → SourceM σ (List Value)}
    {names : AssetKind → List String} {sort : σ → Prop} (hlist : ListsJson list sort)
    {config : AuditConfig} {start : σ} (hstart : sort start)
    {keep : σ → SessionM (StateM Scene) Unit} {outcome : ScanOutcome}
    (h : play (scan (Scene.desk equipment) config (.ofManifests list names) start keep) cluster scene =
      ((.ok outcome, after), reached)) : Reported config outcome reached.items := by
  obtain ⟨learnt, known, done, hprefetch, hrun, hsummary, hshown⟩ := exists_of_scan_ok h
  have hknown : NamesJson sort known :=
    (prefetch_run_steps hprefetch).1.invariant (fun _ _ _ hstep hs ↦ hs.step rfl hlist hstep)
      (.start hstart)
  have hscan := congrArg Prod.fst hrun
  have hreports := Scan.isJson_of_run rfl hlist hknown hscan
  obtain ⟨stored, hconclude⟩ := Scan.exists_conclude_of_run hscan
  obtain ⟨htexts, hcounted⟩ := Console.of_summary (Console.Printing.on_fault_eq_none_iff.1 hsummary).1
  refine ⟨Scan.accounted_of_conclude hconclude,
    Document.ofOutcome_of_printed (Document.attributed_of_conclude hconclude)
      fun report hreport ↦ (Console.Printing.on_fault_eq_none_iff.1 (hreports report hreport).1).1,
    Document.isJson_draft (fun report hreport ↦ (hreports report hreport).2) hcounted, _, htexts, ?_⟩
  have hprinted := Console.fault_printReports_on fun report hreport ↦ (hreports report hreport).1
  rw [reportsOf_run hrun, reportsOf_prefetch hprefetch, List.nil_append,
    Console.Printing.on_eq_of_fault hsummary, Console.Printing.on_eq_of_fault hprinted] at hshown
  exact hshown

/-- The connection to a cluster is made before it is scanned. -/
theorem connected_of_openCluster (hcluster : cluster.HoldsJson)
    (h : play (openCluster (Scene.desk equipment)) cluster scene = ((.ok (), after), reached)) :
    after.connected = true ∧ after.HoldsJson := by
  have hconnected := cluster.authenticate_listed.2
  have hjson := hcluster.authenticate
  unfold openCluster at h
  obtain ⟨_, _, _, hget, h⟩ := exists_of_play_bind_ok h
  cases hget
  rcases hlogin : Cluster.authenticate.run cluster with ⟨result, loggedIn⟩
  rw [hlogin] at h hconnected hjson
  obtain ⟨_, _, _, hset, h⟩ := exists_of_play_bind_ok h
  cases hset
  obtain ⟨method, _, _, hmethod, h⟩ := exists_of_play_bind_ok h
  obtain rfl := eq_ok_of_play_orFault hmethod
  cases hmethod
  cases h
  exact ⟨hconnected method rfl, hjson⟩

theorem ofDirectory_of_openSnapshot {config : AuditConfig} {snapshot : Snapshot}
    (h : play (openSnapshot (Scene.desk equipment) config) cluster scene =
      ((.ok snapshot, after), reached)) :
    Snapshot.ofDirectory equipment.yaml scene.files config.snapshotFiles = .ok snapshot := by
  unfold openSnapshot at h
  obtain ⟨loaded, _, _, hload, h⟩ := exists_of_play_bind_ok h
  rw [play_atDesk, load_run] at hload
  cases hload
  obtain ⟨opened, _, _, hopened, h⟩ := exists_of_play_bind_ok h
  obtain ⟨_, _, _, -, h⟩ := exists_of_play_bind_ok h
  cases h
  exact eq_ok_of_play_orFault hopened

/-- A scan that returns has reported its outcome, when the manifests are JSON. -/
theorem reported_of_scanConfigured {config : AuditConfig} {outcome : ScanOutcome}
    (hcluster : cluster.HoldsJson)
    (hsnapshot : ∀ path ∈ config.snapshotFiles,
      ∀ doc ∈ Snapshot.documentsAt equipment.yaml scene.files path, doc.isJson = true)
    (h : play (scanConfigured (Scene.desk equipment) config) cluster scene =
      ((.ok outcome, after), reached)) : Reported config outcome reached.items := by
  unfold scanConfigured at h
  split at h
  · obtain ⟨_, between, passed, hopen, h⟩ := exists_of_play_bind_ok h
    have hstart := connected_of_openCluster hcluster hopen
    obtain ⟨_, _, _, hget, h⟩ := exists_of_play_bind_ok h
    cases hget
    exact reported_of_scan Cluster.listsJson hstart h
  · obtain ⟨snapshot, _, _, hopen, h⟩ := exists_of_play_bind_ok h
    exact reported_of_scan Snapshot.listsJson
      (Snapshot.holdsJson_of_ofDirectory hsnapshot (ofDirectory_of_openSnapshot hopen)) h

end ClusterAudit.Session
