import ClusterAudit.Escalation.Dependency
import ClusterAudit.Proofs.Manifest.Written

/-!
# Escalation dependencies as a plain join

The dependencies of some bindings are looked up in two indexes, of the nodes by name and of the pods
by the identity of their account.  The plain join goes through bindings, subjects and pods one
inside the other and searches the lists of nodes and roles from the front.  When names are texts or
null, so that they are keys and all identities are written, both give the same dependencies in the same
order and as often.
-/

namespace ClusterAudit.Escalation

open Manifest

/-! ## The plain join -/

/-- The dependency of a binding through a subject and a pod, if the subject is one that pods run as,
the pod runs as it, and its node is known. -/
def joinedDependency (roles : List Role) (nodes : List Node) (passedOver : List String)
    (wantAll : Bool) (binding : RoleBinding) (subject : Subject) (pod : Pod) :
    Option EscalationDependency :=
  if subject.kind = .text "ServiceAccount" ∨ subject.kind = .text "Group" then
    match subject.identity? with
    | none => none
    | some identity =>
      if (wantAll = true ∨ identity ∉ passedOver) ∧ pod.serviceAccountIdentity? = some identity then
        let role := roles.find? fun role ↦ role.assetName = binding.roleRefName
        (nodes.find? fun node ↦ node.name = pod.nodeName).map fun node ↦ {
          binding, role, node, pod
          serviceAccount := identity
          escalatingRules :=
            match role with
            | none => []
            | some role => role.rules.filter PolicyRule.isEscalating }
      else none
  else none

/-- All dependencies: for each binding, each of its subjects and each pod, in these orders. -/
def joinedDependencies (bindings : List RoleBinding) (roles : List Role) (nodes : List Node)
    (pods : List Pod) (passedOver : List String) (wantAll : Bool) : List EscalationDependency :=
  bindings.flatMap fun binding ↦ binding.subjects.flatMap fun subject ↦
    pods.filterMap (joinedDependency roles nodes passedOver wantAll binding subject)

/-! ## Identities that are written -/

/-- All identities that are looked up can be written: those of bindings and of the roles to which they
refer, those of subjects and roles, and those of the accounts of pods. -/
structure Legible (bindings : List RoleBinding) (roles : List Role) (pods : List Pod) : Prop where
  bindingNames : ∀ binding ∈ bindings, ∀ part ∈ binding.nameParts ++ binding.refParts,
    part.isWritable = true
  subjectNames : ∀ binding ∈ bindings, ∀ subject ∈ binding.subjects,
    ∀ part ∈ subject.identityParts, part.isWritable = true
  roleNames : ∀ binding ∈ bindings, ∀ role ∈ roles, ∀ part ∈ role.nameParts, part.isWritable = true
  accountNames : ∀ pod ∈ pods, ∀ part ∈ pod.accountParts, part.isWritable = true

instance (bindings : List RoleBinding) (roles : List Role) (pods : List Pod) :
    Decidable (Legible bindings roles pods) :=
  decidable_of_iff
    ((∀ binding ∈ bindings, ∀ part ∈ binding.nameParts ++ binding.refParts, part.isWritable = true) ∧
      (∀ binding ∈ bindings, ∀ subject ∈ binding.subjects,
        ∀ part ∈ subject.identityParts, part.isWritable = true) ∧
      (∀ binding ∈ bindings, ∀ role ∈ roles, ∀ part ∈ role.nameParts, part.isWritable = true) ∧
      ∀ pod ∈ pods, ∀ part ∈ pod.accountParts, part.isWritable = true)
    ⟨fun h ↦ ⟨h.1, h.2.1, h.2.2.1, h.2.2.2⟩,
      fun h ↦ ⟨h.bindingNames, h.subjectNames, h.roleNames, h.accountNames⟩⟩

/-- Names and namespaces that are texts or null can be written. -/
theorem Legible.of_names {bindings : List RoleBinding} {roles : List Role} {pods : List Pod}
    (hbindings : ∀ binding ∈ bindings, (binding.scope = .namespaced → binding.ns.IsName) ∧
      binding.name.IsName ∧ binding.roleRef.name.IsName)
    (hsubjects : ∀ binding ∈ bindings, ∀ subject ∈ binding.subjects,
      subject.ns.IsName ∧ subject.name.IsName)
    (hroles : ∀ binding ∈ bindings, ∀ role ∈ roles,
      (role.scope = .namespaced → role.ns.IsName) ∧ role.name.IsName)
    (hpods : ∀ pod ∈ pods, pod.ns.IsName ∧ pod.serviceAccountName.IsName) :
    Legible bindings roles pods where
  bindingNames binding hbinding :=
    have ⟨hns, hname, href⟩ := hbindings binding hbinding
    List.forall_mem_append.2
      ⟨RoleScope.forall_identityParts hns hname, RoleScope.forall_identityParts hns href⟩
  subjectNames binding hbinding subject hsubject :=
    have ⟨hns, hname⟩ := hsubjects binding hbinding subject hsubject
    forall_accountParts hns hname
  roleNames binding hbinding role hrole :=
    have ⟨hns, hname⟩ := hroles binding hbinding role hrole
    RoleScope.forall_identityParts hns hname
  accountNames pod hpod :=
    have ⟨hns, hname⟩ := hpods pod hpod
    forall_accountParts hns hname

theorem forall_subjectParts {subject : Subject}
    (h : ∀ part ∈ subject.identityParts, part.isWritable = true) :
    ∀ part ∈ subjectParts subject, part.isWritable = true := by
  unfold subjectParts
  split
  · exact h
  · exact List.forall_mem_nil _

/-- A role that is looked up is the first one that is found. -/
theorem eq_findRole_of_lookUpRole {binding : RoleBinding} {roles : List Role} {role : Option Role}
    (h : lookUpRole binding roles = .ok role) : role = findRole binding roles := by
  induction roles with
  | nil => exact Value.eq_of_written h
  | cons first rest ih =>
    obtain ⟨found, hfound, h⟩ := Traversal.bind_eq_ok h
    rw [Value.eq_of_written hfound] at h
    rw [findRole, List.find?_cons]
    cases hsame : first.assetName.same binding.roleRefName with
    | true =>
      rw [hsame] at h
      cases h
      rfl
    | false =>
      rw [hsame] at h
      exact ih h

theorem lookUpRole_eq {binding : RoleBinding} {roles : List Role}
    (hbinding : ∀ part ∈ binding.nameParts ++ binding.refParts, part.isWritable = true)
    (hroles : ∀ role ∈ roles, ∀ part ∈ role.nameParts, part.isWritable = true) :
    lookUpRole binding roles = .ok (findRole binding roles) := by
  induction roles with
  | nil => exact Value.written_of_forall hbinding
  | cons first rest ih =>
    obtain ⟨hfirst, hrest⟩ := List.forall_mem_cons.1 hroles
    have hfound : Value.written (first.nameParts ++ binding.refParts)
        (first.assetName.same binding.roleRefName) =
          .ok (first.assetName.same binding.roleRefName) :=
      Value.written_of_forall (List.forall_mem_append.2 ⟨hfirst, (List.forall_mem_append.1 hbinding).2⟩)
    rw [lookUpRole, hfound, findRole, List.find?_cons]
    cases first.assetName.same binding.roleRefName with
    | true => rfl
    | false => exact ih hrest

/-! ## The indexes -/

theorem indexNodes_eq {nodes : List Node} (h : ∀ node ∈ nodes, node.name.IsName) :
    ∃ index, indexNodes nodes = .ok index ∧
      ∀ name : Value, name.IsName →
        findNode index name = .ok (nodes.find? fun node ↦ node.name = name) := by
  induction nodes with
  | nil =>
    refine ⟨[], rfl, fun name hname ↦ ?_⟩
    obtain ⟨key, rfl, -⟩ := hname.scalar
    rfl
  | cons node rest ih =>
    obtain ⟨index, hindex, hfind⟩ := ih fun other hother ↦ h other (List.mem_cons_of_mem node hother)
    obtain ⟨key, hkey, -⟩ := (h node List.mem_cons_self).scalar
    refine ⟨(key, node) :: index, ?_, fun name hname ↦ ?_⟩
    · unfold indexNodes at hindex ⊢
      rw [List.mapM_cons, hindex, hkey]
      rfl
    · have hrest := hfind name hname
      obtain ⟨wanted, rfl, hsame⟩ := hname.scalar
      by_cases hname : key = wanted
      · simp [findNode, Value.asKey, hkey, hsame, hname, bind, Except.bind, pure, Except.pure]
      · simpa [findNode, Value.asKey, hkey, hsame, hname, bind, Except.bind, pure, Except.pure]
          using hrest

/-- An entry of the index holds the pods of its identity in their order. -/
theorem PodIndex.getD_ofList (pods : List Pod) (identity : String) :
    (PodIndex.ofList pods).getD identity [] =
      pods.filter fun pod ↦ pod.serviceAccountIdentity? = some identity := by
  induction pods with
  | nil => exact Std.HashMap.getD_empty
  | cons pod rest ih =>
    change (PodIndex.put (PodIndex.ofList rest) pod).getD identity [] = _
    unfold PodIndex.put
    cases hpod : pod.serviceAccountIdentity? with
    | none => simp [hpod, ih]
    | some other =>
      rw [Std.HashMap.getD_insert, List.filter_cons, hpod, ← ih]
      by_cases hsame : other = identity
      · simp [hsame]
      · simp [hsame]

theorem indexPods_eq {pods : List Pod}
    (h : ∀ pod ∈ pods, ∀ part ∈ pod.accountParts, part.isWritable = true) :
    indexPods pods = .ok (PodIndex.ofList pods) := by
  apply Value.written_of_forall
  intro part hpart
  obtain ⟨pod, hpod, hpart⟩ := List.mem_flatMap.1 hpart
  exact h pod hpod part hpart

/-! ## The lookups of one binding -/

theorem findRole_eq (binding : RoleBinding) (roles : List Role) (h : binding.roleRef.name.IsName) :
    findRole binding roles = roles.find? fun role ↦ role.assetName = binding.roleRefName := by
  have href : binding.roleRefName.IsName := by
    unfold RoleBinding.roleRefName RoleScope.identity
    split
    · exact .text _
    · exact h
  unfold findRole
  simp only [href.same_eq_decide]

theorem eligibleIdentity?_eq_some_iff (passedOver : List String) (wantAll : Bool) (subject : Subject)
    (identity : String) :
    eligibleIdentity? passedOver wantAll subject = some identity ↔
      (subject.kind = .text "ServiceAccount" ∨ subject.kind = .text "Group") ∧
        subject.identity? = some identity ∧ (wantAll = true ∨ identity ∉ passedOver) := by
  have hkind (t : String) : subject.kind.same (.text t) = decide (subject.kind = .text t) :=
    (Value.IsName.text t).same_eq_decide subject.kind
  unfold eligibleIdentity? isAccount subjectKinds
  simp only [List.any_cons, List.any_nil, Bool.or_false, hkind]
  by_cases h : subject.kind = .text "ServiceAccount" ∨ subject.kind = .text "Group"
  · rw [if_pos (by simpa using h), Option.filter_eq_some_iff]
    simp [h]
  · rw [if_neg (by simpa using h)]
    simp [h]

/-! ## The two joins agree -/

section

variable (roles : List Role) {nodes : List Node} {passedOver : List String} {wantAll : Bool}
  {binding : RoleBinding} {subject : Subject}

/-- Without an eligible identity the plain join passes over the subject as well. -/
theorem joinedDependency_eq_none (h : eligibleIdentity? passedOver wantAll subject = none) (pod : Pod) :
    joinedDependency roles nodes passedOver wantAll binding subject pod = none := by
  unfold joinedDependency
  split
  · rename_i hkind
    split
    · rfl
    · rename_i identity hidentity
      rw [if_neg]
      rintro ⟨hwanted, -⟩
      have heligible : eligibleIdentity? passedOver wantAll subject = some identity :=
        (eligibleIdentity?_eq_some_iff passedOver wantAll subject identity).2
          ⟨hkind, hidentity, hwanted⟩
      rw [h] at heligible
      cases heligible
  · rfl

/-- Through an eligible identity the plain join keeps the pods of the identity on known nodes. -/
theorem throughSubject_eq {pods : List Pod} {index : List (Scalar × Node)}
    (hfind : ∀ pod ∈ pods,
      findNode index pod.nodeName = .ok (nodes.find? fun node ↦ node.name = pod.nodeName))
    (href : binding.roleRef.name.IsName)
    (hsubject : ∀ part ∈ subject.identityParts, part.isWritable = true) :
    throughSubject index (PodIndex.ofList pods) passedOver wantAll binding (findRole binding roles)
        subject =
      .ok (pods.filterMap (joinedDependency roles nodes passedOver wantAll binding subject)) := by
  rw [throughSubject, Value.written_of_forall (forall_subjectParts hsubject)]
  cases heligible : eligibleIdentity? passedOver wantAll subject with
  | none =>
    change Except.ok _ = Except.ok _
    rw [Except.ok.injEq]
    exact (List.filterMap_eq_nil_iff.2 fun pod _ ↦ joinedDependency_eq_none roles heligible pod).symm
  | some identity =>
    obtain ⟨hkind, hidentity, hwanted⟩ :=
      (eligibleIdentity?_eq_some_iff passedOver wantAll subject identity).1 heligible
    have hpod : ∀ pod ∈ pods.filter fun pod ↦ pod.serviceAccountIdentity? = some identity,
        throughPod index binding (findRole binding roles) identity pod =
          .ok (joinedDependency roles nodes passedOver wantAll binding subject pod) := by
      intro pod hmem
      obtain ⟨hpod, hsame⟩ := List.mem_filter.1 hmem
      unfold throughPod joinedDependency
      rw [hfind pod hpod, if_pos hkind, hidentity]
      simp only [hwanted, of_decide_eq_true hsame, and_self, if_true, findRole_eq binding roles href]
      cases roles.find? fun role ↦ role.assetName = binding.roleRefName <;> rfl
    -- The pods that the index does not give are those that the plain join passes over.
    have hother : ∀ pod ∈ pods,
        (if pod.serviceAccountIdentity? = some identity then
            joinedDependency roles nodes passedOver wantAll binding subject pod
          else none) =
        joinedDependency roles nodes passedOver wantAll binding subject pod := by
      intro pod _
      split
      · rfl
      · rename_i hne
        simp [joinedDependency, hkind, hidentity, hne]
    change (((PodIndex.ofList pods).getD identity []).mapM
      (throughPod index binding (findRole binding roles) identity) >>=
        fun found ↦ pure (found.filterMap id)) = _
    rw [PodIndex.getD_ofList, Traversal.mapM_eq_ok_map hpod]
    change Except.ok _ = Except.ok _
    rw [List.filterMap_map, List.filterMap_filter]
    congr 1
    apply List.filterMap_congr
    intro pod hmem
    simpa using hother pod hmem

/-- When the role of a binding and the dependencies through each of its subjects are found, the binding
has all of these. -/
theorem throughBinding_eq {index : List (Scalar × Node)} {pods : PodIndex}
    {found : Subject → List EscalationDependency}
    (hrole : lookUpRole binding roles = .ok (findRole binding roles))
    (hsubjects : ∀ subject ∈ binding.subjects,
      throughSubject index pods passedOver wantAll binding (findRole binding roles) subject =
        .ok (found subject)) :
    throughBinding roles index pods passedOver wantAll binding = .ok (binding.subjects.flatMap found) := by
  unfold throughBinding
  split
  · rename_i hempty
    rw [List.isEmpty_iff.1 hempty]
    rfl
  · rw [hrole]
    change (binding.subjects.mapM
      (throughSubject index pods passedOver wantAll binding (findRole binding roles)) >>=
        fun found ↦ pure found.flatten) = _
    rw [Traversal.mapM_eq_ok_map hsubjects, List.flatMap_def]
    rfl

end

/-- Looking dependencies up in the indexes gives exactly the dependencies of the plain join, in its
order and as often as there.  Names and namespaces that are texts or null are always legible
(`Legible.of_names`). -/
theorem resolve_eq_joinedDependencies (bindings : List RoleBinding) (roles : List Role)
    (nodes : List Node) (pods : List Pod) (passedOver : List String) (wantAll : Bool)
    (hbindings : ∀ binding ∈ bindings, binding.roleRef.name.IsName)
    (hnodes : ∀ node ∈ nodes, node.name.IsName) (hpods : ∀ pod ∈ pods, pod.nodeName.IsName)
    (hlegible : Legible bindings roles pods) :
    resolve bindings roles nodes pods passedOver wantAll =
      .ok (joinedDependencies bindings roles nodes pods passedOver wantAll) := by
  obtain ⟨index, hindex, hfind⟩ := indexNodes_eq hnodes
  have hpod : ∀ pod ∈ pods,
      findNode index pod.nodeName = .ok (nodes.find? fun node ↦ node.name = pod.nodeName) :=
    fun pod hmem ↦ hfind pod.nodeName (hpods pod hmem)
  have hbinding : ∀ binding ∈ bindings,
      throughBinding roles index (PodIndex.ofList pods) passedOver wantAll binding =
        .ok (binding.subjects.flatMap fun subject ↦
          pods.filterMap (joinedDependency roles nodes passedOver wantAll binding subject)) := by
    intro binding hmem
    have hsubject : ∀ subject ∈ binding.subjects,
        throughSubject index (PodIndex.ofList pods) passedOver wantAll binding
            (findRole binding roles) subject =
          .ok (pods.filterMap (joinedDependency roles nodes passedOver wantAll binding subject)) :=
      fun subject hmember ↦
        throughSubject_eq roles hpod (hbindings binding hmem)
          (hlegible.subjectNames binding hmem subject hmember)
    have hlookUp := lookUpRole_eq (hlegible.bindingNames binding hmem) (hlegible.roleNames binding hmem)
    exact throughBinding_eq roles hlookUp hsubject
  rw [resolve, hindex, indexPods_eq hlegible.accountNames, joinedDependencies, List.flatMap_def]
  change (bindings.mapM (throughBinding roles index (PodIndex.ofList pods) passedOver wantAll) >>=
    fun found ↦ pure found.flatten) = _
  rw [Traversal.mapM_eq_ok_map hbinding]
  rfl

/-- Of two roles and of two nodes with the same name the first is taken; a repeated subject counts
twice, and a pod without node meets a node without name. -/
theorem resolve_with_repetitions :
    let reader : Subject := ⟨.text "ServiceAccount", .text "builder", .text "ci", .text ""⟩
    let pod (name : String) (nodeName : Value) : Pod :=
      { (default : Pod) with
        name := .text name, ns := .text "ci", serviceAccountName := .text "builder", nodeName }
    (resolve
      [⟨.namespaced, .text "rb", .text "ci", ⟨.text "", .text "Role", .text "reader"⟩,
        [reader, { reader with kind := .text "User" }, reader]⟩]
      [⟨.namespaced, .text "reader", .text "ci", [{ apiGroups := [""], resources := ["secrets"] }]⟩,
        ⟨.namespaced, .text "reader", .text "ci", []⟩]
      [⟨.text "n1", [], []⟩, ⟨.null, [], []⟩, ⟨.text "n1", [(.text "zone", .text "a")], []⟩]
      [pod "a" (.text "n1"), pod "b" (.text "n2"), pod "c" .null] ["ci/other"] false).map
        (fun found ↦ found.map fun dependency ↦ (dependency.pod.name, dependency.node.name,
          dependency.node.labels.length, dependency.escalatingRules.length)) =
      .ok [(.text "a", .text "n1", 0, 1), (.text "c", .null, 0, 1), (.text "a", .text "n1", 0, 1),
        (.text "c", .null, 0, 1)] := by
  intro reader pod
  rw [resolve_eq_joinedDependencies _ _ _ _ _ _ (by decide) (by decide) (by decide) (by decide)]
  decide

end ClusterAudit.Escalation
