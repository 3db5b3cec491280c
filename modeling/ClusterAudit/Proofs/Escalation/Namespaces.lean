import ClusterAudit.Proofs.Escalation.Paths
import ClusterAudit.Proofs.Escalation.Reference

/-!
# Escalation paths and namespaces

Subjects, accounts of pods and roles are compared by identities, in which a namespace and a name are
joined by a slash.  Where namespaces have no slash an identity tells them apart, whatever the names
are.  So to compare identities is to compare namespaces and names: an escalation path leads from a
binding to a pod in the namespace of a subject, and through a role in the namespace of the binding.
-/

namespace ClusterAudit

open Manifest

/-! ## Identities of pairs -/

/-- The pod lives in the namespace of the subject and runs as the account of its name. -/
def Pod.RunsAs (pod : Pod) (subject : Subject) : Prop :=
  pod.ns = subject.ns ∧ pod.serviceAccountName = subject.name

instance (pod : Pod) (subject : Subject) : Decidable (pod.RunsAs subject) :=
  inferInstanceAs (Decidable (_ ∧ _))

/-- The name of a subject is a text, and so is its namespace, if it has one, and without slash. -/
structure Subject.Plain (subject : Subject) : Prop where
  name : ∃ name : String, subject.name = .text name
  ns : subject.ns = .null ∨ subject.ns.Slashless

/-- The namespace of a pod is a text without slash, and its account and its node have names, if any. -/
structure Pod.Plain (pod : Pod) : Prop where
  ns : pod.ns.Slashless
  account : pod.serviceAccountName = .null ∨ ∃ account : String, pod.serviceAccountName = .text account
  node : pod.nodeName.IsName

theorem Manifest.Value.Slashless.ne_null {v : Value} (h : v.Slashless) : v ≠ .null := by
  obtain ⟨s, rfl, -⟩ := h
  simp

theorem Manifest.Value.Slashless.isName {v : Value} (h : v.Slashless) : v.IsName := by
  obtain ⟨s, rfl, -⟩ := h
  exact .text s

theorem Subject.identity?_of_plain {subject : Subject} (hname : ∃ name : String, subject.name = .text name)
    (hns : subject.ns.Slashless) : subject.identity? = some (qualified subject.ns subject.name) := by
  obtain ⟨name, hname⟩ := hname
  simp [identity?, hname, hns.ne_null]

/-- A pod has the identity of a subject when it runs as it. -/
theorem identities_eq_iff_runsAs {subject : Subject} {pod : Pod} (hsubject : subject.Plain)
    (hpod : pod.Plain) (identity : String) :
    subject.identity? = some identity ∧ pod.serviceAccountIdentity? = some identity ↔
      pod.RunsAs subject ∧ qualified subject.ns subject.name = identity := by
  obtain ⟨name, hname⟩ := hsubject.name
  rcases hsubject.ns with hnone | hns
  · have hapart : ¬ pod.RunsAs subject := fun h ↦ hpod.ns.ne_null (h.1.trans hnone)
    simp [Subject.identity?, hnone, hapart]
  rw [Subject.identity?_of_plain hsubject.name hns, Option.some_inj, Pod.RunsAs, hname]
  rcases hpod.account with hnone | ⟨account, haccount⟩
  · simp [Pod.serviceAccountIdentity?, hnone]
  · have hidentity : pod.serviceAccountIdentity? = some (qualified pod.ns (.text account)) := by
      simp [Pod.serviceAccountIdentity?, haccount, hpod.ns.ne_null]
    rw [hidentity, haccount, Option.some_inj, ← qualified_inj hpod.ns hns account name]
    constructor
    · rintro ⟨rfl, hsame⟩
      exact ⟨hsame, rfl⟩
    · rintro ⟨hsame, rfl⟩
      exact ⟨rfl, hsame⟩

namespace Escalation

/-! ## The join on pairs -/

/-- The dependency of a binding through a subject and a pod, if pods can run as the subject, the pod does
so, the subject is not passed over, and the node of the pod is known. -/
def pairedPath? (roles : List Role) (nodes : List Node) (passedOver : List String) (wantAll : Bool)
    (binding : RoleBinding) (subject : Subject) (pod : Pod) : Option EscalationDependency :=
  if (subject.kind = .text "ServiceAccount" ∨ subject.kind = .text "Group") ∧ pod.RunsAs subject ∧
      (wantAll = true ∨ qualified subject.ns subject.name ∉ passedOver) then
    (nodes.find? fun node ↦ node.name = pod.nodeName).map
      (dependencyOn binding (findRole binding roles) (qualified subject.ns subject.name) pod)
  else none

/-- The dependencies of bindings through their subjects and the pods that run as these, in these
orders. -/
def pairedPaths (bindings : List RoleBinding) (roles : List Role) (nodes : List Node) (pods : List Pod)
    (passedOver : List String) (wantAll : Bool) : List EscalationDependency :=
  bindings.flatMap fun binding ↦ binding.subjects.flatMap fun subject ↦
    pods.filterMap (pairedPath? roles nodes passedOver wantAll binding subject)

variable {bindings : List RoleBinding} {roles : List Role} {nodes : List Node} {pods : List Pod}
  {passedOver : List String} {wantAll : Bool} {binding : RoleBinding} {subject : Subject} {pod : Pod}

theorem pairedPath?_eq_some_iff {dependency : EscalationDependency} :
    pairedPath? roles nodes passedOver wantAll binding subject pod = some dependency ↔
      (subject.kind = .text "ServiceAccount" ∨ subject.kind = .text "Group") ∧ pod.RunsAs subject ∧
        (wantAll = true ∨ qualified subject.ns subject.name ∉ passedOver) ∧
        ∃ node, (nodes.find? fun node ↦ node.name = pod.nodeName) = some node ∧
          dependencyOn binding (findRole binding roles) (qualified subject.ns subject.name) pod node =
            dependency := by
  unfold pairedPath?
  split
  · rename_i h
    rw [Option.map_eq_some_iff]
    exact ⟨fun hnode ↦ ⟨h.1, h.2.1, h.2.2, hnode⟩, fun hpath ↦ hpath.2.2.2⟩
  · rename_i h
    constructor
    · rintro ⟨⟩
    · rintro ⟨hkind, hruns, hwanted, -⟩
      exact absurd ⟨hkind, hruns, hwanted⟩ h

/-- Comparing identities finds the pods that run as a subject. -/
theorem path?_eq_pairedPath? (hsubject : subject.Plain) (hpod : pod.Plain) :
    path? roles nodes passedOver wantAll binding subject pod =
      pairedPath? roles nodes passedOver wantAll binding subject pod := by
  have hnode : nodeOf nodes pod = nodes.find? fun node ↦ node.name = pod.nodeName := by
    unfold nodeOf
    simp only [hpod.node.same_eq_decide]
  apply Option.ext
  intro dependency
  rw [path?_eq_some_iff, pairedPath?_eq_some_iff, ← hnode]
  simp only [eligibleIdentity?_eq_some_iff]
  constructor
  · rintro ⟨identity, node, ⟨hkind, hidentity, hwanted⟩, hsame, hnode, hdependency⟩
    obtain ⟨hruns, rfl⟩ := (identities_eq_iff_runsAs hsubject hpod identity).1 ⟨hidentity, hsame⟩
    exact ⟨hkind, hruns, hwanted, node, hnode, hdependency⟩
  · rintro ⟨hkind, hruns, hwanted, node, hnode, hdependency⟩
    obtain ⟨hidentity, hsame⟩ := (identities_eq_iff_runsAs hsubject hpod _).2 ⟨hruns, rfl⟩
    exact ⟨_, node, ⟨hkind, hidentity, hwanted⟩, hsame, hnode, hdependency⟩

theorem mem_pairedPaths_iff {dependency : EscalationDependency} :
    dependency ∈ pairedPaths bindings roles nodes pods passedOver wantAll ↔
      ∃ binding ∈ bindings, ∃ subject ∈ binding.subjects, ∃ pod ∈ pods,
        pairedPath? roles nodes passedOver wantAll binding subject pod = some dependency := by
  simp only [pairedPaths, List.mem_flatMap, List.mem_filterMap]

/-- Bindings, roles, nodes and pods whose names are texts and whose namespaces are texts without slash;
a subject may have no namespace, and a pod no account and no node. -/
structure PlainObjects (bindings : List RoleBinding) (roles : List Role) (nodes : List Node)
    (pods : List Pod) : Prop where
  bindingNames : ∀ binding ∈ bindings, ∃ name : String, binding.name = .text name
  roleNames : ∀ binding ∈ bindings, PlainNames binding roles
  subjectNames : ∀ binding ∈ bindings, ∀ subject ∈ binding.subjects, subject.Plain
  nodeNames : ∀ node ∈ nodes, node.name.IsName
  podNames : ∀ pod ∈ pods, pod.Plain

theorem PlainObjects.legible (h : PlainObjects bindings roles nodes pods) :
    Legible bindings roles pods := by
  refine Legible.of_names ?_ ?_ ?_ ?_
  · intro binding hbinding
    have hplain := h.roleNames binding hbinding
    exact ⟨fun hscope ↦ (hplain.home hscope).isName, .of_text (h.bindingNames binding hbinding),
      .of_text hplain.reference⟩
  · intro binding hbinding subject hsubject
    have hplain := h.subjectNames binding hbinding subject hsubject
    exact ⟨hplain.ns.elim (fun hnone ↦ hnone ▸ .null) (·.isName), .of_text hplain.name⟩
  · intro binding hbinding role hrole
    have hplain := h.roleNames binding hbinding
    exact ⟨fun hscope ↦ (hplain.namespaces role hrole hscope).isName, .of_text (hplain.names role hrole)⟩
  · intro pod hpod
    have hplain := h.podNames pod hpod
    exact ⟨hplain.ns.isName, hplain.account.elim (fun hnone ↦ hnone ▸ .null) .of_text⟩

theorem resolve_eq_pairedPaths (h : PlainObjects bindings roles nodes pods) :
    resolve bindings roles nodes pods passedOver wantAll =
      .ok (pairedPaths bindings roles nodes pods passedOver wantAll) := by
  rw [resolve_eq_paths bindings (fun node hnode ↦ (h.nodeNames node hnode).asKey_isOk)
    (fun pod hpod ↦ (h.podNames pod hpod).node.asKey_isOk) h.legible]
  unfold paths pairedPaths
  congr 1
  apply List.flatMap_congr
  intro binding hbinding
  apply List.flatMap_congr
  intro subject hsubject
  apply List.filterMap_congr
  intro pod hpod
  exact path?_eq_pairedPath? (h.subjectNames binding hbinding subject hsubject) (h.podNames pod hpod)

/-- Among namespaced roles, comparing identities finds the role by its name and the namespace of the
binding. -/
theorem findRole_eq_find?_in_namespace (h : PlainNames binding roles)
    (hscope : binding.scope = .namespaced) (hroles : ∀ role ∈ roles, role.scope = .namespaced) :
    findRole binding roles =
      roles.find? fun role ↦ role.name = binding.roleRef.name ∧ role.ns = binding.ns := by
  apply find?_congr_of_mem
  intro role hrole
  have hrefers := refersTo_eq_namesInScope h hrole
  unfold RoleBinding.refersTo RoleBinding.namesInScope at hrefers
  simpa [hscope, hroles role hrole] using hrefers

/-- Escalation paths do not cross namespaces.  To join bindings, roles and pods on identities is to join
them on namespaces and names: every path leads to a pod that runs as a subject of its binding, in the
namespace of this subject, and goes through the role of the given name in the namespace of the binding;
and every pod that runs as a subject of a binding is reached, if its node is known and the subject is
not passed over. -/
theorem resolve_within_namespaces (bindings : List RoleBinding) (roles : List Role) (nodes : List Node)
    (pods : List Pod) (passedOver : List String) (wantAll : Bool)
    (h : PlainObjects bindings roles nodes pods) :
    ∃ found, resolve bindings roles nodes pods passedOver wantAll = .ok found ∧
      found = pairedPaths bindings roles nodes pods passedOver wantAll ∧
      (∀ dependency ∈ found, dependency.binding ∈ bindings ∧ dependency.pod ∈ pods ∧
        (∃ subject ∈ dependency.binding.subjects, dependency.pod.ns = subject.ns ∧
          dependency.pod.serviceAccountName = subject.name) ∧
        (dependency.binding.scope = .namespaced → (∀ role ∈ roles, role.scope = .namespaced) →
          dependency.role = roles.find? fun role ↦
            role.name = dependency.binding.roleRef.name ∧ role.ns = dependency.binding.ns)) ∧
      ∀ binding ∈ bindings, ∀ subject ∈ binding.subjects, ∀ pod ∈ pods,
        subject.kind = .text "ServiceAccount" ∨ subject.kind = .text "Group" →
        pod.ns = subject.ns → pod.serviceAccountName = subject.name →
        (∃ node ∈ nodes, node.name = pod.nodeName) →
        wantAll = true ∨ qualified subject.ns subject.name ∉ passedOver →
          ∃ dependency ∈ found, dependency.binding = binding ∧ dependency.pod = pod ∧
            dependency.serviceAccount = qualified subject.ns subject.name := by
  refine ⟨_, resolve_eq_pairedPaths h, rfl, fun dependency hdependency ↦ ?_, ?_⟩
  · obtain ⟨binding, hbinding, subject, hsubject, pod, hpod, hpath⟩ :=
      mem_pairedPaths_iff.1 hdependency
    obtain ⟨-, hruns, -, node, -, rfl⟩ := pairedPath?_eq_some_iff.1 hpath
    refine ⟨hbinding, hpod, ⟨subject, hsubject, hruns⟩, fun hscope hroles ↦ ?_⟩
    exact findRole_eq_find?_in_namespace (h.roleNames binding hbinding) hscope hroles
  · intro binding hbinding subject hsubject pod hpod hkind hns hname ⟨node, hnode, hon⟩ hwanted
    obtain ⟨first, hfirst⟩ : ∃ first, (nodes.find? fun node ↦ node.name = pod.nodeName) = some first :=
      Option.isSome_iff_exists.1 (List.find?_isSome.2 ⟨node, hnode, by simpa using hon⟩)
    refine ⟨_, mem_pairedPaths_iff.2 ⟨binding, hbinding, subject, hsubject, pod, hpod,
      pairedPath?_eq_some_iff.2 ⟨hkind, ⟨hns, hname⟩, hwanted, first, hfirst, rfl⟩⟩, rfl, rfl, rfl⟩

/-- Names with slashes and an empty namespace: the account of the second pod is called like the identity
of the first subject, and the one of the last pod lives in another namespace. -/
theorem resolve_within_namespaces_slashed :
    let builder : Subject := ⟨.text "ServiceAccount", .text "x/y", .text "ci", .text ""⟩
    let nested : Subject := ⟨.text "Group", .text "ci/x/y", .text "", .text ""⟩
    let pod (name ns account : String) : Pod :=
      { (default : Pod) with
        name := .text name, ns := .text ns, serviceAccountName := .text account, nodeName := .text "n1" }
    let bindings : List RoleBinding :=
      [⟨.namespaced, .text "rb", .text "ci", ⟨.text "", .text "Role", .text "a/b"⟩, [builder, nested]⟩]
    let roles : List Role :=
      [⟨.namespaced, .text "a/b", .text "other", []⟩, ⟨.namespaced, .text "a/b", .text "ci", []⟩]
    let nodes : List Node := [⟨.text "n1", [], []⟩]
    let pods : List Pod := [pod "one" "ci" "x/y", pod "two" "" "ci/x/y", pod "three" "other" "x/y"]
    PlainObjects bindings roles nodes pods ∧
      ∃ found, resolve bindings roles nodes pods [] false = .ok found ∧
        found.map (fun dependency ↦ (dependency.pod.name, dependency.role.map (·.ns))) =
          [(.text "one", some (.text "ci")), (.text "two", some (.text "ci"))] := by
  intro builder nested pod bindings roles nodes pods
  have hci : (Value.text "ci").Slashless := ⟨"ci", rfl, by decide⟩
  have hother : (Value.text "other").Slashless := ⟨"other", rfl, by decide⟩
  have hempty : (Value.text "").Slashless := ⟨"", rfl, by decide⟩
  have hroles : ∀ role ∈ roles, role.ns.Slashless :=
    List.forall_mem_cons.2 ⟨hother, List.forall_mem_singleton.2 hci⟩
  have hsubjects : ∀ subject ∈ [builder, nested], subject.Plain :=
    List.forall_mem_cons.2 ⟨⟨⟨_, rfl⟩, .inr hci⟩, List.forall_mem_singleton.2 ⟨⟨_, rfl⟩, .inr hempty⟩⟩
  have hpod {ns : String} (hns : (Value.text ns).Slashless) (name account : String) :
      (pod name ns account).Plain :=
    ⟨hns, .inr ⟨account, rfl⟩, .text "n1"⟩
  have hplain : PlainObjects bindings roles nodes pods := by
    refine ⟨List.forall_mem_singleton.2 ⟨"rb", rfl⟩,
      List.forall_mem_singleton.2 ⟨⟨_, rfl⟩, ?_, fun _ ↦ hci, fun role hrole _ ↦ hroles role hrole⟩,
      List.forall_mem_singleton.2 hsubjects, by decide, ?_⟩
    · exact List.forall_mem_cons.2 ⟨⟨_, rfl⟩, List.forall_mem_singleton.2 ⟨_, rfl⟩⟩
    · exact List.forall_mem_cons.2 ⟨hpod hci "one" "x/y", List.forall_mem_cons.2
        ⟨hpod hempty "two" "ci/x/y", List.forall_mem_singleton.2 (hpod hother "three" "x/y")⟩⟩
  obtain ⟨found, hfound, rfl, -, -⟩ :=
    resolve_within_namespaces bindings roles nodes pods [] false hplain
  refine ⟨hplain, _, hfound, ?_⟩
  decide +kernel

end Escalation

end ClusterAudit
