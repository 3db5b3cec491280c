import ClusterAudit.Proofs.Escalation.Paths
import ClusterAudit.Proofs.Reordering

/-!
# Escalation dependencies in another order

Whether dependencies can be resolved is a matter of the names that are compared and of the identities
that are written.  When the roles, and the nodes, are told apart by their names, what is found for a
binding does not depend on their order, so that bindings, roles, nodes and pods in another order give
the same dependencies in another order.
-/

namespace ClusterAudit.Escalation

open Filtering Manifest Traversal

variable {bindings : List RoleBinding} {roles : List Role} {nodes : List Node} {pods : List Pod}
  {passedOver : List String} {wantAll : Bool}

/-! ## When dependencies can be resolved -/

theorem throughPod_isOk {index : List (Scalar × Node)} {binding : RoleBinding} {role : Option Role}
    {identity : String} {pod : Pod} :
    (throughPod index binding role identity pod).isOk = pod.nodeName.asKey.isOk := by
  unfold throughPod findNode
  cases pod.nodeName.asKey with
  | error fault => rfl
  | ok key => rfl

theorem throughSubject_isOk_iff {index : List (Scalar × Node)} {binding : RoleBinding}
    {role : Option Role} {subject : Subject} :
    (throughSubject index (PodIndex.ofList pods) passedOver wantAll binding role subject).isOk = true ↔
      (∀ part ∈ subjectParts subject, part.isWritable = true) ∧
      ∀ identity, eligibleIdentity? passedOver wantAll subject = some identity →
        ∀ pod ∈ pods, pod.serviceAccountIdentity? = some identity →
          pod.nodeName.asKey.isOk = true := by
  by_cases hparts : ∀ part ∈ subjectParts subject, part.isWritable = true
  · rw [throughSubject, Value.written_of_forall hparts, and_iff_right hparts]
    cases eligibleIdentity? passedOver wantAll subject with
    | none => simp [bind, Except.bind, pure, Except.pure, Except.isOk, Except.toBool]
    | some identity =>
      change (((PodIndex.ofList pods).getD identity []).mapM
        (throughPod index binding role identity) >>= fun found ↦ pure (found.filterMap id)).isOk = true ↔ _
      rw [isOk_bind_pure, mapM_isOk_iff, PodIndex.getD_ofList]
      simp [throughPod_isOk]
  · refine ⟨fun h ↦ ?_, fun h ↦ absurd h.1 hparts⟩
    obtain ⟨found, hfound⟩ := exists_of_isOk h
    obtain ⟨eligible, hwritten, -⟩ := bind_eq_ok hfound
    exact absurd (Value.written_eq_ok_iff.1 hwritten).1 hparts

/-- A role is looked up when its reference can be written and, unless the role is found, also the name of
the binding, whatever the order of the roles. -/
theorem lookUpRole_isOk_iff {binding : RoleBinding}
    (hroles : ∀ role ∈ roles, ∀ part ∈ role.nameParts, part.isWritable = true) :
    (lookUpRole binding roles).isOk = true ↔
      (∀ part ∈ binding.refParts, part.isWritable = true) ∧
        ((findRole binding roles).isSome = true ∨
          ∀ part ∈ binding.nameParts, part.isWritable = true) := by
  induction roles with
  | nil =>
    rw [lookUpRole, Value.written_isOk_iff, List.forall_mem_append, and_comm]
    simp [findRole]
  | cons role rest ih =>
    obtain ⟨hrole, hrest⟩ := List.forall_mem_cons.1 hroles
    by_cases href : ∀ part ∈ binding.refParts, part.isWritable = true
    · have hfound : Value.written (role.nameParts ++ binding.refParts)
          (role.assetName.same binding.roleRefName) = .ok (role.assetName.same binding.roleRefName) :=
        Value.written_of_forall (List.forall_mem_append.2 ⟨hrole, href⟩)
      rw [lookUpRole, hfound, findRole, List.find?_cons]
      cases role.assetName.same binding.roleRefName with
      | true => exact ⟨fun _ ↦ ⟨href, .inl rfl⟩, fun _ ↦ rfl⟩
      | false => exact ih hrest
    · refine ⟨fun h ↦ ?_, fun h ↦ absurd h.1 href⟩
      obtain ⟨found, hfound⟩ := exists_of_isOk h
      obtain ⟨same, hwritten, -⟩ := bind_eq_ok hfound
      exact absurd (List.forall_mem_append.1 (Value.written_eq_ok_iff.1 hwritten).1).2 href

/-- What is compared in looking up dependencies are keys, and what is looked up can be written. -/
structure Comparable (bindings : List RoleBinding) (roles : List Role) (nodes : List Node)
    (pods : List Pod) (passedOver : List String) (wantAll : Bool) : Prop where
  nodes : ∀ node ∈ nodes, node.name.asKey.isOk = true
  accounts : ∀ pod ∈ pods, ∀ part ∈ pod.accountParts, part.isWritable = true
  roles : ∀ binding ∈ bindings, binding.subjects ≠ [] → (lookUpRole binding roles).isOk = true
  subjects : ∀ binding ∈ bindings, ∀ subject ∈ binding.subjects,
    ∀ part ∈ subjectParts subject, part.isWritable = true
  pods : ∀ binding ∈ bindings, ∀ subject ∈ binding.subjects, ∀ identity,
    eligibleIdentity? passedOver wantAll subject = some identity →
      ∀ pod ∈ pods, pod.serviceAccountIdentity? = some identity → pod.nodeName.asKey.isOk = true

theorem throughBinding_isOk_iff {index : List (Scalar × Node)} {binding : RoleBinding} :
    (throughBinding roles index (PodIndex.ofList pods) passedOver wantAll binding).isOk = true ↔
      (binding.subjects ≠ [] → (lookUpRole binding roles).isOk = true) ∧
      ∀ subject ∈ binding.subjects,
        (∀ part ∈ subjectParts subject, part.isWritable = true) ∧
        ∀ identity, eligibleIdentity? passedOver wantAll subject = some identity →
          ∀ pod ∈ pods, pod.serviceAccountIdentity? = some identity →
            pod.nodeName.asKey.isOk = true := by
  unfold throughBinding
  split
  · rename_i hempty
    rw [List.isEmpty_iff.1 hempty]
    simp [pure, Except.pure, Except.isOk, Except.toBool]
  · rename_i hsubjects
    have hne : binding.subjects ≠ [] := fun h ↦ hsubjects (List.isEmpty_iff.2 h)
    cases hrole : lookUpRole binding roles with
    | error fault => simp [hne, bind, Except.bind, Except.isOk, Except.toBool]
    | ok role =>
      change (binding.subjects.mapM
        (throughSubject index (PodIndex.ofList pods) passedOver wantAll binding role) >>=
          fun found ↦ pure found.flatten).isOk = true ↔ _
      rw [isOk_bind_pure, mapM_isOk_iff]
      simp only [throughSubject_isOk_iff]
      exact ⟨fun h ↦ ⟨fun _ ↦ rfl, h⟩, fun h ↦ h.2⟩

theorem resolve_isOk_iff :
    (resolve bindings roles nodes pods passedOver wantAll).isOk = true ↔
      Comparable bindings roles nodes pods passedOver wantAll := by
  have hindexOk : (indexNodes nodes).isOk = true ↔ ∀ node ∈ nodes, node.name.asKey.isOk = true := by
    rw [indexNodes, mapM_isOk_iff]
    simp only [isOk_bind_pure]
  have hresolve (index : List (Scalar × Node)) (hindex : indexNodes nodes = .ok index)
      (haccounts : ∀ pod ∈ pods, ∀ part ∈ pod.accountParts, part.isWritable = true) :
      (resolve bindings roles nodes pods passedOver wantAll).isOk =
        (bindings.mapM
          (throughBinding roles index (PodIndex.ofList pods) passedOver wantAll)).isOk := by
    rw [resolve, hindex, indexPods_eq haccounts]
    exact isOk_bind_pure _ _
  constructor
  · intro h
    obtain ⟨found, hfound⟩ := exists_of_isOk h
    obtain ⟨index, hindex, hfound⟩ := bind_eq_ok hfound
    obtain ⟨podIndex, hpodIndex, -⟩ := bind_eq_ok hfound
    have haccounts : ∀ pod ∈ pods, ∀ part ∈ pod.accountParts, part.isWritable = true :=
      fun pod hpod part hpart ↦
        (Value.written_eq_ok_iff.1 hpodIndex).1 part (List.mem_flatMap.2 ⟨pod, hpod, hpart⟩)
    rw [hresolve index hindex haccounts, mapM_isOk_iff] at h
    have hkeys : (indexNodes nodes).isOk = true := by
      rw [hindex]
      rfl
    have hbinding := fun binding hmem ↦ throughBinding_isOk_iff.1 (h binding hmem)
    exact {
      nodes := hindexOk.1 hkeys
      accounts := haccounts
      roles := fun binding hmem ↦ (hbinding binding hmem).1
      subjects := fun binding hmem subject hsubject ↦ ((hbinding binding hmem).2 subject hsubject).1
      pods := fun binding hmem subject hsubject ↦ ((hbinding binding hmem).2 subject hsubject).2 }
  · intro h
    obtain ⟨index, hindex⟩ := exists_of_isOk (hindexOk.2 h.nodes)
    rw [hresolve index hindex h.accounts, mapM_isOk_iff]
    exact fun binding hmem ↦ throughBinding_isOk_iff.2 ⟨h.roles binding hmem, fun subject hsubject ↦
      ⟨h.subjects binding hmem subject hsubject, h.pods binding hmem subject hsubject⟩⟩

/-! ## Other orders -/

/-- Where names of roles are written, the dependencies of bindings can be resolved in any order in which
the same roles are found. -/
theorem Comparable.perm {others : List RoleBinding} {moreRoles : List Role} {moreNodes : List Node}
    {morePods : List Pod} (hbindings : bindings.Perm others) (hroles : roles.Perm moreRoles)
    (hnodes : nodes.Perm moreNodes) (hpods : pods.Perm morePods)
    (hwritten : ∀ role ∈ roles, ∀ part ∈ role.nameParts, part.isWritable = true)
    (hfound : ∀ binding, findRole binding roles = findRole binding moreRoles)
    (h : Comparable bindings roles nodes pods passedOver wantAll) :
    Comparable others moreRoles moreNodes morePods passedOver wantAll where
  nodes node hnode := h.nodes node (hnodes.mem_iff.2 hnode)
  accounts pod hpod := h.accounts pod (hpods.mem_iff.2 hpod)
  roles binding hbinding hsubjects := by
    have hrole := h.roles binding (hbindings.mem_iff.2 hbinding) hsubjects
    rw [lookUpRole_isOk_iff hwritten, hfound] at hrole
    exact (lookUpRole_isOk_iff fun role hrole ↦ hwritten role (hroles.mem_iff.2 hrole)).2 hrole
  subjects binding hbinding := h.subjects binding (hbindings.mem_iff.2 hbinding)
  pods binding hbinding subject hsubject identity heligible pod hpod :=
    h.pods binding (hbindings.mem_iff.2 hbinding) subject hsubject identity heligible pod
      (hpods.mem_iff.2 hpod)

/-- With the same role and the same node for whatever is looked up, the dependencies of bindings and
pods in another order are the same in another order. -/
theorem paths_perm {others : List RoleBinding} {otherRoles : List Role} {otherNodes : List Node}
    {otherPods : List Pod} (hbindings : bindings.Perm others) (hpods : pods.Perm otherPods)
    (hroles : ∀ binding, findRole binding roles = findRole binding otherRoles)
    (hnodes : ∀ pod, nodeOf nodes pod = nodeOf otherNodes pod) :
    (paths bindings roles nodes pods passedOver wantAll).Perm
      (paths others otherRoles otherNodes otherPods passedOver wantAll) := by
  have hpath : path? roles nodes passedOver wantAll = path? otherRoles otherNodes passedOver wantAll := by
    funext binding subject pod
    simp only [path?, hroles, hnodes]
  unfold paths
  rw [hpath]
  apply List.Perm.flatMap hbindings
  intro binding _
  apply List.Perm.flatMap_left
  intro subject _
  exact hpods.filterMap _

end ClusterAudit.Escalation
