import ClusterAudit.Proofs.Escalation.Paths
import ClusterAudit.Proofs.Inventory.Log

/-!
# Bare names of accounts

Where dependencies are resolved, the accounts to pass over are compared with identities, and every
identity gives a namespace.  So the bare names among them are idle, and the table of a fresh cluster,
which has bare names only, excludes no path.  An inventory compares the same names with the names of
the accounts themselves, and leaves out those that the table lists.
-/

namespace ClusterAudit

open Inventory Manifest

/-! ## Accounts that are fetched -/

namespace Inventory

variable {σ : Type}

/-- A primary kind whose fetch gives assets with names is learnt without the default objects, unless
they are wanted. -/
theorem primary_run_fetched (inventory : Inventory σ) {kind : AssetKind} {s : InventoryState σ}
    {assets : List Asset} (hunknown : known? s.known kind = none)
    (hfetch : ((inventory.source.fetch kind).run s.source).1 = .ok assets)
    (hnames : ∀ asset ∈ assets, asset.HasName) :
    ((inventory.primary kind).run s).1 = .ok (inventory.kept kind assets) := by
  have hload : (inventory.load kind s.source).1 = .ok (inventory.kept kind assets) := by
    unfold load
    change ((inventory.source.fetch kind).run s.source).1 >>= inventory.wanted kind = _
    rw [hfetch]
    exact inventory.wanted_eq_kept hnames kind
  rw [inventory.primary_run_unknown hunknown]
  rcases hrun : inventory.load kind s.source with ⟨result, after⟩
  rw [hrun] at hload
  obtain rfl : result = .ok (inventory.kept kind assets) := hload
  rfl

end Inventory

namespace Escalation

/-! ## Names that give a namespace -/

/-- Whether a name gives a namespace, as an identity does. -/
def inNamespace (name : String) : Bool :=
  name.toList.contains '/'

theorem inNamespace_qualified (ns name : Value) : inNamespace (qualified ns name) = true := by
  simp [inNamespace, qualified, String.toList_append]

theorem inNamespace_of_identity? {subject : Subject} {identity : String}
    (h : subject.identity? = some identity) : inNamespace identity = true := by
  unfold Subject.identity? at h
  split at h
  · cases h
  · obtain rfl := Option.some.inj h
    exact inNamespace_qualified _ _

/-- The names of accounts in the table of a fresh cluster are bare. -/
theorem not_inNamespace_of_mem_serviceAccounts :
    ∀ name ∈ Defaults.serviceAccounts, inNamespace name = false := by
  decide +kernel

/-! ## Accounts that are passed over -/

/-- Two ways to pass over accounts agree on all names that give a namespace. -/
def PassOverAlike (passedOver : List String) (wantAll : Bool) (others : List String) (wantOthers : Bool) :
    Prop :=
  ∀ name, inNamespace name = true →
    (wantAll = true ∨ name ∉ passedOver ↔ wantOthers = true ∨ name ∉ others)

/-- The names that give a namespace do the work of all names. -/
theorem passOverAlike_filter (passedOver : List String) :
    PassOverAlike passedOver false (passedOver.filter inNamespace) false := by
  intro name hname
  simp [List.mem_filter, hname]

/-- To pass over bare names is to pass over nothing. -/
theorem passOverAlike_of_bare {passedOver : List String}
    (h : ∀ name ∈ passedOver, inNamespace name = false) (others : List String) :
    PassOverAlike passedOver false others true := by
  intro name hname
  have habsent : name ∉ passedOver := by
    intro hmem
    rw [h name hmem] at hname
    cases hname
  simp [habsent]

/-- When all accounts are wanted nothing is passed over. -/
theorem passOverAlike_all (passedOver others : List String) :
    PassOverAlike passedOver true others true := by
  intro name _
  simp

namespace PassOverAlike

variable {passedOver others : List String} {wantAll wantOthers : Bool}
  (h : PassOverAlike passedOver wantAll others wantOthers)

include h

theorem eligibleIdentity?_eq (subject : Subject) :
    eligibleIdentity? passedOver wantAll subject = eligibleIdentity? others wantOthers subject := by
  apply Option.ext
  intro identity
  rw [eligibleIdentity?_eq_some_iff, eligibleIdentity?_eq_some_iff]
  exact and_congr_right fun _ ↦ and_congr_right fun hidentity ↦
    h identity (inNamespace_of_identity? hidentity)

/-- The resolver looks at the accounts to pass over only by the identities of subjects. -/
theorem resolve_eq (bindings : List RoleBinding) (roles : List Role) (nodes : List Node)
    (pods : List Pod) :
    resolve bindings roles nodes pods passedOver wantAll =
      resolve bindings roles nodes pods others wantOthers := by
  unfold resolve throughBinding throughSubject
  simp only [h.eligibleIdentity?_eq]

end PassOverAlike

/-- Bare names exclude no path.  Whatever names are passed over, the paths are those that remain when only
the names with a namespace are passed over; and to pass over the accounts of a fresh cluster gives all
paths, though an inventory that leaves out default objects does not have these accounts.  Only an
integer with too many digits in a name makes objects illegible. -/
theorem bare_names_exclude_no_path (bindings : List RoleBinding) (roles : List Role) (nodes : List Node)
    (pods : List Pod) (hnodes : ∀ node ∈ nodes, node.name.IsName)
    (hpods : ∀ pod ∈ pods, pod.nodeName.IsName) (hlegible : Legible bindings roles pods) :
    (∀ passedOver : List String, ∃ found,
      resolve bindings roles nodes pods passedOver false = .ok found ∧
      resolve bindings roles nodes pods (passedOver.filter inNamespace) false = .ok found ∧
      found = paths bindings roles nodes pods (passedOver.filter inNamespace) false) ∧
    (∃ found,
      resolve bindings roles nodes pods (Defaults.names .serviceAccount) false = .ok found ∧
      resolve bindings roles nodes pods (Defaults.names .serviceAccount) true = .ok found ∧
      found = paths bindings roles nodes pods [] true) ∧
    ∀ (σ : Type) (source : AssetSource σ) (s : InventoryState σ) (accounts : List Asset),
      source.defaultNames .serviceAccount = Defaults.names .serviceAccount →
      known? s.known .serviceAccount = none →
      ((source.fetch .serviceAccount).run s.source).1 = .ok accounts →
      (∀ account ∈ accounts, account.HasName) →
        ((assetsOf ⟨source, true⟩ .serviceAccount).run s).1 = .ok accounts ∧
        ((assetsOf ⟨source, false⟩ .serviceAccount).run s).1 =
          .ok (accounts.filter fun account ↦
            ∀ name ∈ Defaults.names .serviceAccount, account.name ≠ .text name) := by
  have hfound (passedOver : List String) (wantAll : Bool) :
      resolve bindings roles nodes pods passedOver wantAll =
        .ok (paths bindings roles nodes pods passedOver wantAll) :=
    resolve_eq_paths bindings (fun node hnode ↦ (hnodes node hnode).asKey_isOk)
      (fun pod hpod ↦ (hpods pod hpod).asKey_isOk) hlegible
  refine ⟨fun passedOver ↦ ?_, ?_, ?_⟩
  · have halike := (passOverAlike_filter passedOver).resolve_eq bindings roles nodes pods
    exact ⟨_, halike.trans (hfound _ false), hfound _ false, rfl⟩
  · have hbare := (passOverAlike_of_bare not_inNamespace_of_mem_serviceAccounts []).resolve_eq
      bindings roles nodes pods
    have hall := (passOverAlike_all Defaults.serviceAccounts []).resolve_eq bindings roles nodes pods
    exact ⟨_, hbare.trans (hfound [] true), hall.trans (hfound [] true), rfl⟩
  · intro σ source s accounts hdefaults hunknown hfetch hnames
    rw [← hdefaults]
    exact ⟨primary_run_fetched ⟨source, true⟩ hunknown hfetch hnames,
      primary_run_fetched ⟨source, false⟩ hunknown hfetch hnames⟩

/-- A cluster with one account that a fresh cluster has as well, and one that it has not. -/
theorem bare_names_exclude_no_path_of_default_account :
    let subject (ns name : String) : Subject :=
      ⟨.text "ServiceAccount", .text name, .text ns, .text ""⟩
    let pod (ns account : String) : Pod :=
      { (default : Pod) with
        name := .text "worker", ns := .text ns, serviceAccountName := .text account,
        nodeName := .text "n1" }
    let account (ns name : String) : Asset := .serviceAccount ⟨.text name, .text ns, false⟩
    let bindings : List RoleBinding :=
      [⟨.namespaced, .text "rb", .text "ci", ⟨.text "", .text "Role", .text "reader"⟩,
        [subject "ci" "builder", subject "kube-system" "default"]⟩]
    let nodes : List Node := [⟨.text "n1", [], []⟩]
    let pods : List Pod := [pod "ci" "builder", pod "kube-system" "default"]
    let found (passedOver : List String) (wantAll : Bool) : Option (List String) :=
      (resolve bindings [] nodes pods passedOver wantAll).toOption.map fun found ↦
        found.map (·.serviceAccount)
    let source : AssetSource Unit :=
      ⟨fun _ ↦ pure [account "ci" "builder", account "kube-system" "default"], Defaults.names⟩
    found ["builder", "default", "ci/builder"] false = some ["kube-system/default"] ∧
      found ["ci/builder"] false = some ["kube-system/default"] ∧
      found (Defaults.names .serviceAccount) false = some ["ci/builder", "kube-system/default"] ∧
      found (Defaults.names .serviceAccount) true = some ["ci/builder", "kube-system/default"] ∧
      ((assetsOf ⟨source, true⟩ .serviceAccount).run ⟨(), [], []⟩).1 =
        .ok [account "ci" "builder", account "kube-system" "default"] ∧
      ((assetsOf ⟨source, false⟩ .serviceAccount).run ⟨(), [], []⟩).1 =
        .ok [account "ci" "builder"] := by
  intro subject pod account bindings nodes pods found source
  have hnodes : ∀ node ∈ nodes, node.name.IsName := by decide
  have hpods : ∀ pod ∈ pods, pod.nodeName.IsName := by decide
  have hlegible : Legible bindings [] pods := by decide
  obtain ⟨hnames, ⟨all, htable, hall, -⟩, haccounts⟩ :=
    bare_names_exclude_no_path bindings [] nodes pods hnodes hpods hlegible
  obtain ⟨remaining, hmixed, hqualified, -⟩ := hnames ["builder", "default", "ci/builder"]
  have hfound (passedOver : List String) (wantAll : Bool) : found passedOver wantAll =
      some ((paths bindings [] nodes pods passedOver wantAll).map (·.serviceAccount)) := by
    change ((resolve bindings [] nodes pods passedOver wantAll).toOption.map _) = _
    rw [resolve_eq_paths bindings (fun node hnode ↦ (hnodes node hnode).asKey_isOk)
      (fun pod hpod ↦ (hpods pod hpod).asKey_isOk) hlegible]
    rfl
  have hfirst : found ["builder", "default", "ci/builder"] false = some ["kube-system/default"] :=
    (hfound _ _).trans (by decide +kernel)
  have hboth : found (Defaults.names .serviceAccount) true =
      some ["ci/builder", "kube-system/default"] :=
    (hfound _ _).trans (by decide +kernel)
  have hkept := haccounts Unit source ⟨(), [], []⟩ _ rfl rfl rfl (by decide)
  refine ⟨hfirst, ?_, ?_, hboth, hkept.1, hkept.2.trans ?_⟩
  · have hfilter : ["builder", "default", "ci/builder"].filter inNamespace = ["ci/builder"] := by
      decide +kernel
    change (resolve bindings [] nodes pods ["ci/builder"] false).toOption.map _ = _
    rw [← hfilter, hqualified, ← hmixed]
    exact hfirst
  · change (resolve bindings [] nodes pods (Defaults.names .serviceAccount) false).toOption.map _ = _
    rw [htable, ← hall]
    exact hboth
  · decide +kernel

end Escalation

end ClusterAudit
