import ClusterAudit.Proofs.Escalation.Join

/-!
# Escalation dependencies one by one

Whenever the dependencies of some bindings can be resolved, they are those of each binding through
each of its subjects and each pod, looked up one by one.  Nothing is asked of names here: they are
compared as the indexes compare them, and a node or a role is the first one that compares equal.
-/

namespace ClusterAudit.Escalation

open Manifest Traversal

/-! ## Single dependencies -/

/-- The first node that has the name which the pod gives for its node. -/
def nodeOf (nodes : List Node) (pod : Pod) : Option Node :=
  nodes.find? fun node ↦ node.name.same pod.nodeName

/-- The dependency of a binding with a role, through an identity and a pod on a node. -/
def dependencyOn (binding : RoleBinding) (role : Option Role) (identity : String) (pod : Pod)
    (node : Node) : EscalationDependency where
  binding
  role
  serviceAccount := identity
  node
  pod
  escalatingRules := (role.map fun r ↦ escalatingRules r.rules).getD []

/-- The dependency of a binding through one of its subjects and a pod, if there is one. -/
def path? (roles : List Role) (nodes : List Node) (passedOver : List String) (wantAll : Bool)
    (binding : RoleBinding) (subject : Subject) (pod : Pod) : Option EscalationDependency :=
  (eligibleIdentity? passedOver wantAll subject).bind fun identity ↦
    if pod.serviceAccountIdentity? = some identity then
      (nodeOf nodes pod).map (dependencyOn binding (findRole binding roles) identity pod)
    else none

/-- The dependencies of bindings through their subjects and the pods, in these orders. -/
def paths (bindings : List RoleBinding) (roles : List Role) (nodes : List Node) (pods : List Pod)
    (passedOver : List String) (wantAll : Bool) : List EscalationDependency :=
  bindings.flatMap fun binding ↦ binding.subjects.flatMap fun subject ↦
    pods.filterMap (path? roles nodes passedOver wantAll binding subject)

theorem path?_eq_some_iff {roles : List Role} {nodes : List Node} {passedOver : List String}
    {wantAll : Bool} {binding : RoleBinding} {subject : Subject} {pod : Pod}
    {dependency : EscalationDependency} :
    path? roles nodes passedOver wantAll binding subject pod = some dependency ↔
      ∃ identity node, eligibleIdentity? passedOver wantAll subject = some identity ∧
        pod.serviceAccountIdentity? = some identity ∧ nodeOf nodes pod = some node ∧
        dependencyOn binding (findRole binding roles) identity pod node = dependency := by
  unfold path?
  rw [Option.bind_eq_some_iff]
  constructor
  · rintro ⟨identity, heligible, h⟩
    split at h
    · rename_i hpod
      obtain ⟨node, hnode, hdependency⟩ := Option.map_eq_some_iff.1 h
      exact ⟨identity, node, heligible, hpod, hnode, hdependency⟩
    · cases h
  · rintro ⟨identity, node, heligible, hpod, hnode, hdependency⟩
    refine ⟨identity, heligible, ?_⟩
    rw [if_pos hpod, hnode, Option.map_some, hdependency]

/-- A dependency carries a binding of the list and the first of the roles to which that refers. -/
theorem of_mem_paths {bindings : List RoleBinding} {roles : List Role} {nodes : List Node}
    {pods : List Pod} {passedOver : List String} {wantAll : Bool} {dependency : EscalationDependency}
    (h : dependency ∈ paths bindings roles nodes pods passedOver wantAll) :
    dependency.binding ∈ bindings ∧ dependency.role = findRole dependency.binding roles := by
  obtain ⟨binding, hbinding, h⟩ := List.mem_flatMap.1 h
  obtain ⟨subject, -, h⟩ := List.mem_flatMap.1 h
  obtain ⟨pod, -, h⟩ := List.mem_filterMap.1 h
  obtain ⟨identity, node, -, -, -, rfl⟩ := path?_eq_some_iff.1 h
  exact ⟨hbinding, rfl⟩

theorem mem_of_mem_paths {bindings : List RoleBinding} {roles : List Role} {nodes : List Node}
    {pods : List Pod} {passedOver : List String} {wantAll : Bool} {dependency : EscalationDependency}
    (h : dependency ∈ paths bindings roles nodes pods passedOver wantAll) :
    dependency.node ∈ nodes ∧ dependency.pod ∈ pods := by
  obtain ⟨binding, -, h⟩ := List.mem_flatMap.1 h
  obtain ⟨subject, -, h⟩ := List.mem_flatMap.1 h
  obtain ⟨pod, hpod, h⟩ := List.mem_filterMap.1 h
  obtain ⟨identity, node, -, -, hnode, rfl⟩ := path?_eq_some_iff.1 h
  exact ⟨List.mem_of_find?_eq_some hnode, hpod⟩

/-! ## Resolved dependencies -/

/-- The index finds the first node whose name is the same as a key. -/
theorem find?_indexNodes {nodes : List Node} {index : List (Scalar × Node)}
    (h : indexNodes nodes = .ok index) (key : Scalar) :
    (index.find? fun entry ↦ entry.1.same key).map (·.2) =
      nodes.find? fun node ↦ node.name.same (.scalar key) := by
  induction nodes generalizing index with
  | nil =>
    cases h
    rfl
  | cons node rest ih =>
    unfold indexNodes at h
    rw [List.mapM_cons] at h
    obtain ⟨entry, hentry, h⟩ := bind_eq_ok h
    obtain ⟨others, hothers, h⟩ := bind_eq_ok h
    obtain ⟨name, hname, hentry⟩ := bind_eq_ok hentry
    cases h
    cases hentry
    have hsame : node.name.same (.scalar key) = name.same key := by
      rw [Value.eq_scalar_of_asKey hname, Value.same]
    rw [List.find?_cons, List.find?_cons, hsame]
    cases name.same key with
    | true => rfl
    | false => exact ih hothers

variable {roles : List Role} {nodes : List Node} {pods : List Pod} {passedOver : List String}
  {wantAll : Bool} {binding : RoleBinding}

theorem findNode_eq {index : List (Scalar × Node)} (hindex : indexNodes nodes = .ok index) {pod : Pod}
    {found : Option Node} (h : findNode index pod.nodeName = .ok found) : found = nodeOf nodes pod := by
  obtain ⟨key, hkey, h⟩ := bind_eq_ok h
  cases h
  rw [nodeOf, Value.eq_scalar_of_asKey hkey, find?_indexNodes hindex]

/-- Through a subject that can be looked up, the dependencies are those of the pods one by one. -/
theorem eq_filterMap_of_throughSubject {index : List (Scalar × Node)}
    (hindex : indexNodes nodes = .ok index) {subject : Subject} {found : List EscalationDependency}
    (h : throughSubject index (PodIndex.ofList pods) passedOver wantAll binding
      (findRole binding roles) subject = .ok found) :
    found = pods.filterMap (path? roles nodes passedOver wantAll binding subject) := by
  obtain ⟨eligible, hwritten, h⟩ := bind_eq_ok h
  rw [Value.eq_of_written hwritten] at h
  cases heligible : eligibleIdentity? passedOver wantAll subject with
  | none =>
    rw [heligible] at h
    cases h
    simp [path?, heligible]
  | some identity =>
    rw [heligible] at h
    obtain ⟨dependencies, hdependencies, h⟩ := bind_eq_ok h
    cases h
    rw [PodIndex.getD_ofList] at hdependencies
    have hmap := eq_map_of_mapM
      (g := fun pod ↦ (nodeOf nodes pod).map
        (dependencyOn binding (findRole binding roles) identity pod)) hdependencies (by
        intro pod _ dependency hpod
        obtain ⟨node, hnode, hpod⟩ := bind_eq_ok hpod
        cases hpod
        rw [findNode_eq hindex hnode]
        rfl)
    rw [hmap, List.filterMap_map, List.filterMap_filter]
    apply List.filterMap_congr
    intro pod _
    simp [path?, heligible]

theorem eq_flatMap_of_throughBinding {index : List (Scalar × Node)}
    (hindex : indexNodes nodes = .ok index) {found : List EscalationDependency}
    (h : throughBinding roles index (PodIndex.ofList pods) passedOver wantAll binding = .ok found) :
    found = binding.subjects.flatMap fun subject ↦
      pods.filterMap (path? roles nodes passedOver wantAll binding subject) := by
  unfold throughBinding at h
  split at h
  · rename_i hempty
    cases h
    rw [List.isEmpty_iff.1 hempty]
    rfl
  · obtain ⟨role, hrole, h⟩ := bind_eq_ok h
    obtain rfl := eq_findRole_of_lookUpRole hrole
    obtain ⟨dependencies, hdependencies, h⟩ := bind_eq_ok h
    cases h
    have hmap := eq_map_of_mapM hdependencies fun subject _ dependency hsubject ↦
      eq_filterMap_of_throughSubject hindex hsubject
    rw [hmap, List.flatMap_def]

/-- Dependencies that can be resolved are those that are looked up one by one. -/
theorem eq_paths_of_resolve {bindings : List RoleBinding} {found : List EscalationDependency}
    (h : resolve bindings roles nodes pods passedOver wantAll = .ok found) :
    found = paths bindings roles nodes pods passedOver wantAll := by
  obtain ⟨index, hindex, h⟩ := bind_eq_ok h
  obtain ⟨podIndex, hpodIndex, h⟩ := bind_eq_ok h
  obtain rfl := Value.eq_of_written hpodIndex
  obtain ⟨dependencies, hdependencies, h⟩ := bind_eq_ok h
  cases h
  have hmap := eq_map_of_mapM hdependencies fun binding _ dependency hbinding ↦
    eq_flatMap_of_throughBinding hindex hbinding
  rw [hmap, paths, List.flatMap_def]

/-! ## Names that are keys -/

theorem throughSubject_eq_ok {index : List (Scalar × Node)}
    (hpods : ∀ pod ∈ pods, pod.nodeName.asKey.isOk = true) (role : Option Role) {subject : Subject}
    (hsubject : ∀ part ∈ subject.identityParts, part.isWritable = true) :
    ∃ found, throughSubject index (PodIndex.ofList pods) passedOver wantAll binding role subject =
      .ok found := by
  rw [throughSubject, Value.written_of_forall (forall_subjectParts hsubject)]
  cases eligibleIdentity? passedOver wantAll subject with
  | none => exact ⟨[], rfl⟩
  | some identity =>
    have hpod : ∀ pod ∈ (PodIndex.ofList pods).getD identity [], ∃ found,
        throughPod index binding role identity pod = .ok found := by
      intro pod hpod
      rw [PodIndex.getD_ofList] at hpod
      obtain ⟨key, hkey⟩ := exists_of_isOk (hpods pod (List.mem_filter.1 hpod).1)
      unfold throughPod findNode
      rw [hkey]
      exact ⟨_, rfl⟩
    obtain ⟨found, hfound⟩ := mapM_eq_ok_of_forall hpod
    refine ⟨found.filterMap id, ?_⟩
    change (((PodIndex.ofList pods).getD identity []).mapM (throughPod index binding role identity) >>=
      fun found ↦ pure (found.filterMap id)) = _
    rw [hfound]
    rfl

/-- Dependencies can be resolved when the names of nodes are keys and all identities are written. -/
theorem resolve_eq_paths (bindings : List RoleBinding)
    (hnodes : ∀ node ∈ nodes, node.name.asKey.isOk = true)
    (hpods : ∀ pod ∈ pods, pod.nodeName.asKey.isOk = true) (hlegible : Legible bindings roles pods) :
    resolve bindings roles nodes pods passedOver wantAll =
      .ok (paths bindings roles nodes pods passedOver wantAll) := by
  have hindex : ∃ index, indexNodes nodes = .ok index := by
    apply mapM_eq_ok_of_forall
    intro node hnode
    obtain ⟨key, hkey⟩ := exists_of_isOk (hnodes node hnode)
    exact ⟨(key, node), by rw [hkey]; rfl⟩
  obtain ⟨index, hindex⟩ := hindex
  have hbinding : ∀ binding ∈ bindings, ∃ found,
      throughBinding roles index (PodIndex.ofList pods) passedOver wantAll binding = .ok found := by
    intro binding hmem
    have hsubjects : ∀ subject ∈ binding.subjects,
        throughSubject index (PodIndex.ofList pods) passedOver wantAll binding (findRole binding roles)
          subject = .ok (pods.filterMap (path? roles nodes passedOver wantAll binding subject)) := by
      intro subject hsubject
      obtain ⟨found, hfound⟩ := throughSubject_eq_ok hpods (findRole binding roles)
        (hlegible.subjectNames binding hmem subject hsubject)
      rw [hfound, eq_filterMap_of_throughSubject hindex hfound]
    exact ⟨_, throughBinding_eq roles
      (lookUpRole_eq (hlegible.bindingNames binding hmem) (hlegible.roleNames binding hmem)) hsubjects⟩
  obtain ⟨found, hfound⟩ := mapM_eq_ok_of_forall hbinding
  have hresolve : resolve bindings roles nodes pods passedOver wantAll = .ok found.flatten := by
    rw [resolve, hindex, indexPods_eq hlegible.accountNames]
    change (bindings.mapM (throughBinding roles index (PodIndex.ofList pods) passedOver wantAll) >>=
      fun found ↦ pure found.flatten) = _
    rw [hfound]
    rfl
  rw [hresolve, eq_paths_of_resolve hresolve]

end ClusterAudit.Escalation
