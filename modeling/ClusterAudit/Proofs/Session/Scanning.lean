import ClusterAudit.Proofs.Scan.FetchOrder
import ClusterAudit.Proofs.Session.Endings
import ClusterAudit.Proofs.Source.Listing
import ClusterAudit.Session.Scene
import ClusterAudit.Yaml.Printer

/-!
# Scans of a cluster

A session that scans a cluster lists the required kinds, each once, up to the first one that cannot
be had.  Logging in, showing reports and saving them list nothing.
-/

namespace ClusterAudit

open Inventory SourceM

/-- The kind that is listed by a question, if one is. -/
def Call.kind? : Call → Option AssetKind
  | .list kind => some kind
  | .listPolicies => some .podSecurityPolicy
  | .userConfiguration _ => none
  | .clusterConfiguration => none

/-- The kinds that a cluster was asked for, in order. -/
def Cluster.listed (cluster : Cluster) : List AssetKind :=
  cluster.calls.filterMap Call.kind?

namespace Cluster

theorem callFor_kind? (kind : AssetKind) : (callFor kind).kind? = some kind := by
  unfold callFor
  split
  · rename_i h
    rw [h]
    rfl
  · rfl

theorem listed_append (cluster : Cluster) (kinds : List AssetKind) (warnings : List String) :
    ({ cluster with calls := cluster.calls ++ kinds.map callFor, warnings } : Cluster).listed =
      cluster.listed ++ kinds := by
  unfold listed
  rw [List.filterMap_append, List.filterMap_map]
  congr 1
  have h : Call.kind? ∘ callFor = some := funext callFor_kind?
  rw [h, List.filterMap_some]

theorem listed_note (call : Call) (hcall : call.kind? = none) (cluster : Cluster) :
    ({ cluster with calls := cluster.calls ++ [call] } : Cluster).listed = cluster.listed := by
  simp [listed, hcall]

/-- Logging in lists nothing, and when it succeeds the cluster is connected. -/
theorem authenticate_listed (cluster : Cluster) :
    (authenticate.run cluster).2.listed = cluster.listed ∧
      ∀ method, (authenticate.run cluster).1 = .ok method →
        (authenticate.run cluster).2.connected = true := by
  obtain ⟨context, userFault, clusterFault, replies, connected, calls, warnings⟩ := cluster
  cases userFault with
  | none =>
    constructor
    · exact listed_note (.userConfiguration context) rfl _
    · intro method h
      rfl
  | some userReason =>
    have htried := listed_note (.userConfiguration context) rfl
      ⟨context, some userReason, clusterFault, replies, connected, calls, warnings⟩
    cases clusterFault with
    | none =>
      constructor
      · rw [← htried]
        exact listed_note .clusterConfiguration rfl _
      · intro method h
        rfl
    | some clusterReason =>
      constructor
      · rw [← htried]
        exact listed_note .clusterConfiguration rfl _
      · intro method h
        cases h

/-- A connected cluster is asked for exactly the kinds that are fetched. -/
theorem harvest_listed (inventory : Inventory Cluster) {names : AssetKind → List String}
    (hsource : inventory.source = Cluster.source names) {kinds : List AssetKind}
    (hprimary : ∀ kind ∈ kinds, kind.isDerived = false) {cluster : Cluster}
    (hconnected : cluster.connected = true) :
    (inventory.harvest kinds cluster).source.listed =
      cluster.listed ++ (inventory.harvest kinds cluster).fetched := by
  induction kinds generalizing cluster with
  | nil => simp [harvest, Harvest.fetched]
  | cons kind rest ih =>
    obtain ⟨warnings, hlist⟩ := list_run hconnected kind
    have hfetch := AssetSource.ofManifests_fetch_run Cluster.list names
      (hprimary kind List.mem_cons_self) cluster
    have hload : (inventory.load kind cluster).2 =
        { cluster with calls := cluster.calls ++ [callFor kind], warnings } := by
      unfold load
      rw [hsource, Cluster.source, hfetch, hlist]
    have hlisted : (inventory.load kind cluster).2.listed = cluster.listed ++ [kind] := by
      rw [hload]
      exact listed_append cluster [kind] warnings
    have hstill : (inventory.load kind cluster).2.connected = true := by
      rw [hload]
      exact hconnected
    have hlater := ih (fun other hother ↦ hprimary other (List.mem_cons_of_mem kind hother)) hstill
    unfold harvest
    rcases hresult : inventory.load kind cluster with ⟨fault | assets, after⟩
    · rw [hresult] at hlisted
      exact hlisted
    · rw [hresult] at hlisted hlater
      dsimp only at hlisted hlater ⊢
      rw [hlater, hlisted]
      simp [Harvest.fetched]

end Cluster

namespace Session

variable {m : Type → Type} [Monad m] [LawfulMonad m]

/-- What a session has listed in the end: the required kinds of a configuration, or those up to one
that could not be had, with whose fault the session ends. -/
def ListsRequired {α : Type} (config : AuditConfig) (start : Cluster) (result : Except Trouble α)
    (after : Cluster) : Prop :=
  let inventory : Inventory Cluster := ⟨Cluster.source Defaults.names, config.includeDefaults⟩
  let needed := requiredKinds (Detector.assetKinds config.detectors)
  ∃ kinds : List AssetKind, kinds <+: needed ∧ after.listed = start.listed ++ kinds ∧
    (kinds = needed ∨ ∃ fault kind reached, result = .error (.fault fault) ∧
      kinds.getLast? = some kind ∧ (inventory.load kind reached).1 = .error fault)

/-- A session that could not log in has listed nothing and ends with that fault. -/
def NotConnected {α : Type} (start : Cluster) (result : Except Trouble α) (after : Cluster) : Prop :=
  after.listed = start.listed ∧
  ∃ fault, result = .error (.fault fault) ∧ (Cluster.authenticate.run start).1 = .error fault

theorem scan_lists_required (desk : Desk m) (config : AuditConfig) {cluster : Cluster}
    (hconnected : cluster.connected = true) :
    Always (scan desk config (Cluster.source Defaults.names) cluster fun reached ↦ set reached) cluster
      (ListsRequired config cluster) := by
  let inventory : Inventory Cluster := ⟨Cluster.source Defaults.names, config.includeDefaults⟩
  let needed := requiredKinds (Detector.assetKinds config.detectors)
  have hprefix := inventory.harvest_fetched_prefix needed cluster
  have hlisted := Cluster.harvest_listed inventory rfl
    (fun kind (hkind : kind ∈ needed) ↦ requiredKinds_primary hkind) hconnected
  have hprefetch := Scan.prefetch_required_run inventory config.detectors cluster
  unfold scan
  apply Always.atDesk_bind
  intro _
  dsimp only
  rw [hprefetch]
  apply Always.set_bind
  apply Always.orFault_bind
  · intro fault hfault
    obtain ⟨kind, hfailure⟩ := Harvest.failure_of_error hfault
    obtain ⟨reached, hload⟩ := inventory.load_of_harvest_failure hfailure
    exact ⟨_, hprefix, hlisted, .inr
      ⟨fault, kind, reached, rfl, Harvest.getLast?_fetched hfailure, hload⟩⟩
  · intro _ hok
    have hall := inventory.harvest_fetched (Harvest.failure_of_ok hok)
    -- The scan itself finds every required kind known and so lists nothing.
    have hnothing := Scan.todo_after_prefetch (hprefetch.trans (Prod.ext hok rfl))
    apply Always.atDesk_bind
    intro _
    rcases hscan : (Scan.run config _ _).run _ with ⟨outcome, done⟩
    have hsource : done.source = (inventory.harvest needed cluster).source := by
      have hrun := congrArg (fun ended ↦ ended.2.source) hscan
      rw [Scan.run_source, hnothing] at hrun
      exact hrun.symm
    dsimp only
    rw [hsource]
    apply Always.set_bind
    apply Always.present_bind
    apply Always.orFault_bind
    · intro fault hfault
      exact ⟨_, hprefix, hlisted, .inl hall⟩
    · intro concluded _
      apply Always.present_bind
      split
      · exact Always.of_run_eq_pure rfl ⟨_, hprefix, hlisted, .inl hall⟩
      · exact Always.of_run_eq_pure rfl ⟨_, hprefix, hlisted, .inl hall⟩

theorem openCluster_lists_nothing (desk : Desk m) (cluster : Cluster) :
    Always (openCluster desk) cluster fun result after ↦
      (result.isOk = true ∧ after.listed = cluster.listed ∧ after.connected = true) ∨
        NotConnected cluster result after := by
  obtain ⟨hlisted, hconnected⟩ := cluster.authenticate_listed
  unfold openCluster NotConnected
  apply Always.get_bind
  rcases hlogin : Cluster.authenticate.run cluster with ⟨result, after⟩
  rw [hlogin] at hlisted hconnected
  dsimp only at hlisted hconnected ⊢
  apply Always.set_bind
  apply Always.orFault_bind
  · intro fault hfault
    exact .inr ⟨hlisted, fault, rfl, hfault⟩
  · intro method hmethod
    apply (Always.atDesk _ after).imp
    rintro ended final ⟨hok, rfl⟩
    exact .inl ⟨hok, hlisted, hconnected method hmethod⟩

theorem scanConfigured_lists_required (desk : Desk m) {config : AuditConfig}
    (hlive : config.snapshotFiles = []) (cluster : Cluster) :
    Always (scanConfigured desk config) cluster fun result after ↦
      ListsRequired config cluster result after ∨ NotConnected cluster result after := by
  unfold scanConfigured
  rw [if_pos (List.isEmpty_iff.2 hlive)]
  apply (openCluster_lists_nothing desk cluster).bind
  · rintro trouble after (⟨hok, -⟩ | ⟨hlisted, fault, htrouble, hfault⟩)
    · cases hok
    · cases htrouble
      exact .inr ⟨hlisted, fault, rfl, hfault⟩
  · rintro _ after (⟨-, hlisted, hconnected⟩ | ⟨-, fault, hok, -⟩)
    · apply Always.get_bind
      apply (scan_lists_required desk config hconnected).imp
      rintro result final ⟨kinds, hprefix, hkinds, hall⟩
      rw [hlisted] at hkinds
      exact .inl ⟨kinds, hprefix, hkinds, hall⟩
    · cases hok

/-- A session that scans a cluster lists the required kinds. -/
theorem auditSelected_lists_required (desk : Desk m) {config : AuditConfig}
    (hlive : config.snapshotFiles = []) (cluster : Cluster) :
    Always (auditSelected desk config) cluster fun result after ↦
      ListsRequired config cluster result after ∨ NotConnected cluster result after := by
  unfold auditSelected
  split
  · rename_i hempty
    have hnone : requiredKinds (Detector.assetKinds config.detectors) = [] := by
      rw [List.isEmpty_iff.1 hempty]
      rfl
    apply (LeavesCluster.atDesk _ cluster).imp
    rintro result after rfl
    rw [ListsRequired, hnone]
    exact .inl ⟨[], List.prefix_rfl, (List.append_nil _).symm, .inl rfl⟩
  · apply (scanConfigured_lists_required desk hlive cluster).bind
    · rintro trouble after (⟨kinds, hprefix, hlisted, hall⟩ | ⟨hlisted, fault, htrouble, hfault⟩)
      · refine .inl ⟨kinds, hprefix, hlisted, hall.imp_right ?_⟩
        rintro ⟨fault, kind, reached, htrouble, hlast, hload⟩
        cases htrouble
        exact ⟨fault, kind, reached, rfl, hlast, hload⟩
      · cases htrouble
        exact .inr ⟨hlisted, fault, rfl, hfault⟩
    · rintro outcome after (⟨kinds, hprefix, hlisted, hall⟩ | ⟨-, fault, hok, -⟩)
      -- Whatever the scan has ended with, nothing is listed after it.
      · refine Always.imp ((LeavesCluster.reportFile desk config).bind (fun file ↦ ?_) after) ?_
        · cases file with
          | none => exact LeavesCluster.pure ()
          | some file => exact LeavesCluster.saveOutcome desk file outcome
        · rintro result final rfl
          refine .inl ⟨kinds, hprefix, hlisted, .inl (hall.resolve_right ?_)⟩
          rintro ⟨fault, kind, reached, hok, -⟩
          cases hok
      · cases hok

end Session

namespace Scan

/-- A scan fetches the required kinds that are not known, each once and in order, up to the first
one that fails; all of this comes before the first report, and nothing is reported when learning
fails.  How other kinds are fetched does not matter.  When the required kinds were prefetched, as in
a session, each of them is fetched once in all, and a session with a cluster lists each of them
once, unless its fault is that one of them could not be had or that it could not log in. -/
theorem run_fetches_required_then_reports {σ : Type} {m : Type → Type} [Monad m] [LawfulMonad m]
    (config : AuditConfig) (inventory : Inventory σ) (audience : Audience) (s : InventoryState σ)
    (desk : Session.Desk m) (cluster : Cluster) :
    let needed := requiredKinds (Detector.assetKinds config.detectors)
    let fetching := needed.filter (isUnknown s.known)
    let expected := inventory.harvest fetching s.source
    let learnt := (learn inventory config.detectors).run s
    let ended := (run config inventory audience).run s
    (needed.Nodup ∧ expected.fetched <+: fetching ∧
      (expected.failure = none → expected.fetched = fetching) ∧
      ∀ kind fault, expected.failure = some (kind, fault) → expected.fetched.getLast? = some kind) ∧
    (∃ reports : List Report,
      ended.2.activities =
        s.activities ++ expected.fetched.map .fetched ++ reports.map .reported ∧
      (∀ kind fault, expected.failure = some (kind, fault) → learnt.1 = .error fault) ∧
      ∀ fault, learnt.1 = .error fault → ended.1 = .error fault ∧ reports = []) ∧
    (∀ other : AssetSource σ, other.defaultNames = inventory.source.defaultNames →
      (∀ kind ∈ needed, other.fetch kind = inventory.source.fetch kind) →
      (run config { inventory with source := other } audience).run s = ended) ∧
    (∀ start : σ,
      let gained := inventory.harvest needed start
      let prefetched := (inventory.prefetch needed).run { source := start }
      prefetched.1 = gained.result ∧
      prefetched.2.activities = gained.fetched.map .fetched ∧
      (prefetched.1 = .ok () → ∃ reports : List Report,
        ((run config inventory audience).run prefetched.2).2.activities =
          needed.map .fetched ++ reports.map .reported)) ∧
    (config.snapshotFiles = [] →
      Session.Always (Session.auditSelected desk config) cluster fun result after ↦
        Session.ListsRequired config cluster result after ∨
          Session.NotConnected cluster result after) := by
  intro needed fetching expected learnt ended
  refine ⟨⟨?_, ?_, ?_, ?_⟩, ?_, ?_, ?_, ?_⟩
  · exact requiredKinds_nodup _
  · exact inventory.harvest_fetched_prefix fetching s.source
  · intro hnone
    exact inventory.harvest_fetched hnone
  · intro kind fault hfailure
    exact Harvest.getLast?_fetched hfailure
  · obtain ⟨reports, hactivities, herror⟩ := run_activities config inventory audience s
    exact ⟨reports, hactivities, fun kind fault h ↦ learn_of_failure h, herror⟩
  · intro other hnames hfetch
    exact run_congr hnames config audience hfetch s
  · intro start gained prefetched
    have hprefetch : prefetched = _ := prefetch_required_run inventory config.detectors start
    refine ⟨?_, ?_, ?_⟩
    · rw [hprefetch]
    · rw [hprefetch]
    · intro hok
      obtain ⟨reports, hactivities, -⟩ := run_activities config inventory audience prefetched.2
      have hnothing : todo config.detectors prefetched.2.known = [] :=
        todo_after_prefetch (Prod.ext hok rfl)
      have hfetched : prefetched.2.activities = needed.map .fetched := by
        rw [hprefetch] at hok ⊢
        exact congrArg _ (inventory.harvest_fetched (Harvest.failure_of_ok hok))
      refine ⟨reports, ?_⟩
      rw [hactivities, hnothing, hfetched]
      simp [harvest, Harvest.fetched]
  · intro hlive
    exact Session.auditSelected_lists_required desk hlive cluster

/-- The nodes are known already, and the pods cannot be had, so the policies are not asked for. -/
theorem run_stops_at_first_outage :
    let config : AuditConfig :=
      { rbac := some [5], isolation := some [1], podSecurity := some [1] }
    let inventory : Inventory Snapshot := ⟨Snapshot.source Defaults.names, false⟩
    let s : InventoryState Snapshot :=
      { source := { outages := [(.pod, "denied")] }, known := [(.node, [])] }
    let equipment : Session.Equipment := ⟨"", fun _ ↦ none, Yaml.own⟩
    let ended := (run config inventory fun _ ↦ none).run s
    requiredKinds (Detector.assetKinds config.detectors) =
      [.serviceAccount, .node, .pod, .podSecurityPolicy] ∧
    ended.1 = .error (.notFetched .pod "denied") ∧
    ended.2.activities = [.fetched .serviceAccount, .fetched .pod] ∧
    Session.Always (Session.auditSelected (Session.Scene.desk equipment) config) {} fun result after ↦
      Session.ListsRequired config {} result after ∨ Session.NotConnected {} result after := by
  intro config inventory s equipment ended
  obtain ⟨-, ⟨reports, hactivities, hfailure, herror⟩, -, -, hsession⟩ :=
    run_fetches_required_then_reports config inventory (fun _ ↦ none) s (Session.Scene.desk equipment) {}
  have hneeded : requiredKinds (Detector.assetKinds config.detectors) =
      [.serviceAccount, .node, .pod, .podSecurityPolicy] := by
    decide +kernel
  have hlearnt := hfailure .pod (.notFetched .pod "denied") (by rw [hneeded]; rfl)
  obtain ⟨hresult, rfl⟩ := herror _ hlearnt
  rw [hneeded] at hactivities
  exact ⟨hneeded, hresult, hactivities, hsession rfl⟩

end Scan

end ClusterAudit
