import ClusterAudit.Proofs.Source.Steps
import ClusterAudit.Proofs.Traversal
import ClusterAudit.Source.Cluster
import ClusterAudit.Source.Snapshot

/-!
# Listing manifests

A source that lists manifests gives assets of the kind that is asked for.  Listing a kind changes
neither the manifests of a snapshot nor the replies of a cluster, only what was asked and which
warnings were given.
-/

namespace ClusterAudit

open Manifest SourceM Traversal

/-! ## Assets of manifests -/

theorem Role.ofManifest_scope {scope : RoleScope} {doc : Value} {role : Role}
    (h : Role.ofManifest scope doc = .ok role) : role.scope = scope := by
  obtain ⟨header, -, h⟩ := bind_eq_ok h
  obtain ⟨name, -, h⟩ := bind_eq_ok h
  obtain ⟨ns, -, h⟩ := bind_eq_ok h
  obtain ⟨elements, -, h⟩ := bind_eq_ok h
  obtain ⟨rules, -, h⟩ := bind_eq_ok h
  cases h
  rfl

theorem RoleBinding.ofManifest_scope {scope : RoleScope} {doc : Value} {binding : RoleBinding}
    (h : RoleBinding.ofManifest scope doc = .ok binding) : binding.scope = scope := by
  obtain ⟨header, -, h⟩ := bind_eq_ok h
  obtain ⟨ref, -, h⟩ := bind_eq_ok h
  obtain ⟨elements, -, h⟩ := bind_eq_ok h
  obtain ⟨subjects, -, h⟩ := bind_eq_ok h
  obtain ⟨name, -, h⟩ := bind_eq_ok h
  obtain ⟨ns, -, h⟩ := bind_eq_ok h
  obtain ⟨apiGroup, -, h⟩ := bind_eq_ok h
  obtain ⟨refKind, -, h⟩ := bind_eq_ok h
  obtain ⟨refName, -, h⟩ := bind_eq_ok h
  cases h
  rfl

/-- A manifest that is read as a kind gives an asset of that kind. -/
theorem Asset.ofManifest_kind {kind : AssetKind} {doc : Value} {asset : Asset}
    (h : Asset.ofManifest kind doc = .ok asset) : asset.kind = kind := by
  cases kind with
  | schedulingPair => cases h
  | escalationDependency => cases h
  | role | clusterRole =>
    obtain ⟨role, hrole, rfl⟩ := map_eq_ok h
    rw [Asset.kind, Role.kind, Role.ofManifest_scope hrole]
  | roleBinding | clusterRoleBinding =>
    obtain ⟨binding, hbinding, rfl⟩ := map_eq_ok h
    rw [Asset.kind, RoleBinding.kind, RoleBinding.ofManifest_scope hbinding]
  | serviceAccount | node | pod | podSecurityPolicy =>
    obtain ⟨_, -, rfl⟩ := map_eq_ok h
    rfl

namespace AssetSource

variable {σ : Type} (list : AssetKind → SourceM σ (List Value))
  (defaultNames : AssetKind → List String)

theorem ofManifests_fetch_run {kind : AssetKind} (hprimary : kind.isDerived = false) (s : σ) :
    ((ofManifests list defaultNames).fetch kind).run s =
      (((list kind).run s).1 >>= fun docs ↦ docs.mapM (Asset.ofManifest kind),
        ((list kind).run s).2) := by
  unfold ofManifests
  dsimp only
  rw [hprimary, if_neg (by simp), run_bind]
  rcases (list kind).run s with ⟨_ | docs, t⟩
  · rfl
  · rfl

theorem ofManifests_fetch_derived {kind : AssetKind} (hderived : kind.isDerived = true) (s : σ) :
    ((ofManifests list defaultNames).fetch kind).run s = (.error (.derivedNotFetched kind), s) := by
  unfold ofManifests
  dsimp only
  rw [hderived, if_pos rfl]
  rfl

end AssetSource

/-! ## Snapshots -/

def Snapshot.answer (snapshot : Snapshot) (kind : AssetKind) : Except Fault (List Value) :=
  match snapshot.outages.find? fun outage ↦ outage.1 = kind with
  | some outage => .error (.notFetched kind outage.2)
  | none => .ok (snapshot.manifestsOf kind)

theorem Snapshot.list_run (kind : AssetKind) (snapshot : Snapshot) :
    (Snapshot.list kind).run snapshot =
      (snapshot.answer kind, { snapshot with calls := snapshot.calls ++ [.list kind] }) := by
  unfold Snapshot.list
  rw [run_bind_of_ok (run_modify _ snapshot), run_bind_of_ok (run_get _), answer]
  dsimp only
  cases snapshot.outages.find? fun outage ↦ outage.1 = kind with
  | some outage => rfl
  | none => rfl

/-! ## Clusters -/

namespace Cluster

def answer (kind : AssetKind) : ClusterReply → Except Fault (List Value)
  | .objects items => if kind = .podSecurityPolicy then items.mapM asPolicy else .ok items
  | .refused status reason =>
    if kind = .podSecurityPolicy && status.same (.int 404) then .ok []
    else do
      let wording ← Value.written [status, reason] (status.spelling ++ " " ++ reason.spelling)
      .error (.notFetched kind wording)
  | .unreachable reason => .error (.notFetched kind ("cluster unreachable: " ++ reason))

theorem note_run (call : Call) (cluster : Cluster) :
    (note call).run cluster = (.ok (), { cluster with calls := cluster.calls ++ [call] }) := rfl

/-- A connected cluster is asked one question for a kind. -/
theorem list_run {cluster : Cluster} (hconnected : cluster.connected = true) (kind : AssetKind) :
    ∃ warnings, (list kind).run cluster =
      (answer kind (cluster.replyFor kind),
        { cluster with calls := cluster.calls ++ [callFor kind], warnings }) := by
  obtain ⟨context, userFault, clusterFault, replies, connected, calls, warnings⟩ := cluster
  obtain rfl : connected = true := hconnected
  unfold list
  rw [run_bind_of_ok (run_get _), if_neg (by simp)]
  dsimp only
  rw [run_bind_of_ok (note_run _ _), run_bind_of_ok (run_get _)]
  unfold replyFor
  dsimp only
  cases ((replies.find? fun reply ↦ reply.1 = kind).map (·.2)).getD (.objects []) with
  | objects items =>
    refine ⟨warnings, ?_⟩
    dsimp only [answer]
    split
    · rfl
    · rfl
  | refused status reason =>
    dsimp only [answer]
    split
    · exact ⟨warnings ++ [policiesNotServed], rfl⟩
    · refine ⟨warnings, ?_⟩
      cases Value.written [status, reason] (status.spelling ++ " " ++ reason.spelling) with
      | error fault => rfl
      | ok wording => rfl
  | unreachable reason => exact ⟨warnings, rfl⟩

/-- A cluster that is connected or can be connected to. -/
def Admits (cluster : Cluster) : Prop :=
  cluster.connected = true ∨ cluster.userFault = none ∨ cluster.clusterFault = none

instance (cluster : Cluster) : Decidable cluster.Admits :=
  inferInstanceAs (Decidable (_ ∨ _ ∨ _))

/-- Connecting to a cluster that can be connected to only asks for configurations. -/
theorem authenticate_run {cluster : Cluster}
    (h : cluster.userFault = none ∨ cluster.clusterFault = none) :
    ∃ method calls,
      authenticate.run cluster = (.ok method, { cluster with connected := true, calls }) := by
  obtain ⟨context, userFault, clusterFault, replies, connected, calls, warnings⟩ := cluster
  cases userFault with
  | none => exact ⟨.userConfiguration, _, rfl⟩
  | some reason =>
    obtain rfl : clusterFault = none := h.resolve_left (by simp)
    exact ⟨.clusterConfiguration, _, rfl⟩

/-- A cluster that is not connected is connected to before it is asked. -/
theorem list_run_of_authenticate {cluster connected : Cluster} {method : AuthMethod}
    (hcluster : cluster.connected = false) (hconnected : connected.connected = true)
    (h : authenticate.run cluster = (.ok method, connected)) (kind : AssetKind) :
    (list kind).run cluster = (list kind).run connected := by
  have hdiscard : (discard authenticate).run cluster = (.ok (), connected) := by
    rw [run_discard, h]
  unfold list
  rw [run_bind_of_ok (run_get cluster), run_bind_of_ok (run_get connected), if_pos (by simp [hcluster]),
    if_neg (by simp [hconnected]), run_bind_of_ok hdiscard]

/-- Listing a kind of a cluster that can be connected to gives what its reply amounts to, and leaves
the cluster connected and with the same replies. -/
theorem list_run_of_admits {cluster : Cluster} (hadmits : cluster.Admits) (kind : AssetKind) :
    ∃ calls warnings, (list kind).run cluster =
      (answer kind (cluster.replyFor kind), { cluster with connected := true, calls, warnings }) := by
  cases hconnected : cluster.connected with
  | true =>
    obtain ⟨warnings, hlist⟩ := list_run hconnected kind
    exact ⟨_, warnings, by rw [hlist, ← hconnected]⟩
  | false =>
    have hopen : cluster.userFault = none ∨ cluster.clusterFault = none :=
      hadmits.resolve_left (by simp [hconnected])
    obtain ⟨method, asked, hauthenticate⟩ := authenticate_run hopen
    have hopened : ({ cluster with connected := true, calls := asked } : Cluster).connected = true := rfl
    obtain ⟨warnings, hlist⟩ := list_run hopened kind
    exact ⟨_, warnings, (list_run_of_authenticate hconnected hopened hauthenticate kind).trans hlist⟩

end Cluster

end ClusterAudit
