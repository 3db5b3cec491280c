import ClusterAudit.Proofs.Escalation.Join

/-!
# Roles to which bindings refer

A reference gives the kind and the name of a role.  The join takes the kind from the scope of the
binding and the namespace from the binding, and compares identities.  Among roles whose namespaces
are texts without slash this is to compare names and namespaces, and it finds what the reference
designates when the reference gives the kind of this scope.
-/

namespace ClusterAudit

open Manifest

/-! ## Texts that are joined by a slash -/

theorem append_separator_inj {α : Type} {a : α} {xs zs : List α} (hxs : a ∉ xs) (hzs : a ∉ zs)
    (ys ws : List α) : xs ++ a :: ys = zs ++ a :: ws ↔ xs = zs ∧ ys = ws := by
  constructor
  · intro h
    induction xs generalizing zs with
    | nil =>
      cases zs with
      | nil => exact ⟨rfl, (List.cons.inj h).2⟩
      | cons z rest => exact absurd ((List.cons.inj h).1 ▸ List.mem_cons_self) hzs
    | cons x rest ih =>
      cases zs with
      | nil => exact absurd ((List.cons.inj h).1 ▸ List.mem_cons_self) hxs
      | cons z others =>
        obtain ⟨hhead, htail⟩ := List.cons.inj h
        obtain ⟨hrest, hys⟩ := ih (fun hmem ↦ hxs (List.mem_cons_of_mem x hmem))
          (fun hmem ↦ hzs (List.mem_cons_of_mem z hmem)) htail
        exact ⟨by rw [hhead, hrest], hys⟩
  · rintro ⟨rfl, rfl⟩
    rfl

/-- A text without slash. -/
def Manifest.Value.Slashless (v : Value) : Prop :=
  ∃ s : String, v = .text s ∧ '/' ∉ s.toList

/-- Namespaces without slash can be told from the names that follow them. -/
theorem qualified_inj {ns other : Value} (hns : ns.Slashless) (hother : other.Slashless)
    (name last : String) :
    qualified ns (.text name) = qualified other (.text last) ↔
      ns = other ∧ Value.text name = .text last := by
  obtain ⟨s, rfl, hs⟩ := hns
  obtain ⟨t, rfl, ht⟩ := hother
  have hlist : qualified (.text s) (.text name) = qualified (.text t) (.text last) ↔
      s.toList ++ '/' :: name.toList = t.toList ++ '/' :: last.toList := by
    rw [← String.toList_inj]
    simp [qualified, String.toList_append]
  rw [hlist, append_separator_inj hs ht, String.toList_inj, String.toList_inj]
  simp [Value.text]

/-! ## References -/

def RoleScope.roleKind : RoleScope → AssetKind
  | namespaced => .role
  | clusterWide => .clusterRole

theorem Role.kind_eq_roleKind (role : Role) : role.kind = role.scope.roleKind := by
  unfold Role.kind RoleScope.roleKind
  cases role.scope with
  | namespaced => rfl
  | clusterWide => rfl

theorem RoleScope.roleKind_inj {scope other : RoleScope} :
    scope.roleKind.name = other.roleKind.name ↔ scope = other := by
  cases scope <;> cases other <;> decide

def RoleScope.bindingKind : RoleScope → AssetKind
  | namespaced => .roleBinding
  | clusterWide => .clusterRoleBinding

theorem RoleBinding.scope_of_kind {binding : RoleBinding} {scope : RoleScope}
    (h : binding.kind = scope.bindingKind) : binding.scope = scope := by
  unfold RoleBinding.kind RoleScope.bindingKind at h
  cases hscope : binding.scope <;> cases scope <;> simp [hscope] at h ⊢

namespace RoleBinding

variable (binding : RoleBinding) (role : Role)

/-- Whether the reference of a binding designates a role: it gives its kind and its name, and a role
in a namespace lives where the binding does. -/
def designates : Bool :=
  decide (binding.roleRef.kind = .text role.kind.name) && decide (role.name = binding.roleRef.name) &&
    (decide (role.scope = .clusterWide) || decide (role.ns = binding.ns))

/-- Whether a role has the scope of a binding, the name that its reference gives and, in a namespace,
the namespace of the binding. -/
def namesInScope : Bool :=
  decide (role.scope = binding.scope) && decide (role.name = binding.roleRef.name) &&
    (decide (role.scope = .clusterWide) || decide (role.ns = binding.ns))

/-- Whether a role has the scope of a binding and the identity to which it refers. -/
def refersTo : Bool :=
  decide (role.scope = binding.scope) && role.assetName.same binding.roleRefName

end RoleBinding

/-- The names of roles and of the role in a reference are texts, and where roles live in namespaces,
these are texts without slash. -/
structure PlainNames (binding : RoleBinding) (roles : List Role) : Prop where
  reference : ∃ name : String, binding.roleRef.name = .text name
  names : ∀ role ∈ roles, ∃ name : String, role.name = .text name
  home : binding.scope = .namespaced → binding.ns.Slashless
  namespaces : ∀ role ∈ roles, role.scope = .namespaced → role.ns.Slashless

variable {binding : RoleBinding} {roles : List Role}

/-- Among plain names, identities are compared by comparing names and namespaces. -/
theorem refersTo_eq_namesInScope (h : PlainNames binding roles) {role : Role} (hrole : role ∈ roles) :
    binding.refersTo role = binding.namesInScope role := by
  obtain ⟨reference, hreference⟩ := h.reference
  obtain ⟨name, hname⟩ := h.names role hrole
  unfold RoleBinding.refersTo RoleBinding.namesInScope Role.assetName RoleBinding.roleRefName
  rw [Bool.and_assoc]
  by_cases hscope : role.scope = binding.scope
  · congr 1
    rw [← hscope]
    cases hkind : role.scope with
    | clusterWide =>
      rw [RoleScope.identity, RoleScope.identity, hreference,
        (Value.IsName.text reference).same_eq_decide]
      simp
    | namespaced =>
      have hinj := qualified_inj (h.namespaces role hrole hkind) (h.home (hscope ▸ hkind)) name reference
      rw [RoleScope.identity, RoleScope.identity, Value.same_text, hreference, hname,
        Bool.eq_iff_iff, decide_eq_true_iff, hinj]
      simp [and_comm]
  · simp [hscope]

/-- A reference that gives the kind of its scope designates what is named in this scope. -/
theorem designates_eq_namesInScope (hkind : binding.roleRef.kind = .text binding.scope.roleKind.name)
    (role : Role) : binding.designates role = binding.namesInScope role := by
  have hscope : (Value.text binding.scope.roleKind.name = .text role.kind.name) ↔
      role.scope = binding.scope := by
    rw [role.kind_eq_roleKind]
    constructor
    · intro h
      exact RoleScope.roleKind_inj.1 (Scalar.text.inj (Value.scalar.inj h)).symm
    · intro h
      rw [h]
  unfold RoleBinding.designates RoleBinding.namesInScope
  rw [hkind, decide_eq_decide.2 hscope]

/-- What it means that a role, or none, is found for a binding among the roles of both scopes. -/
structure RoleFound (binding : RoleBinding) (roles : List Role) (found : Option Role) : Prop where
  /-- It is the first one of the scope of the binding that has the identity to which this refers. -/
  eq_find? : found = roles.find? binding.refersTo
  eq_none_iff : found = none ↔ ∀ role ∈ roles, binding.refersTo role = false
  scope_eq : ∀ role, found = some role → role.scope = binding.scope
  eq_of_plainNames : PlainNames binding roles → found = roles.find? binding.namesInScope
  /-- A reference that gives the kind of the scope of its binding is followed. -/
  eq_designated : PlainNames binding roles →
    binding.roleRef.kind = .text binding.scope.roleKind.name →
    found = roles.find? binding.designates

theorem find?_congr_of_mem {α : Type} {p q : α → Bool} {xs : List α} (h : ∀ x ∈ xs, p x = q x) :
    xs.find? p = xs.find? q := by
  induction xs with
  | nil => rfl
  | cons x rest ih =>
    rw [List.find?_cons, List.find?_cons, h x List.mem_cons_self,
      ih fun y hy ↦ h y (List.mem_cons_of_mem x hy)]

theorem RoleFound.of_eq_find? {found : Option Role} (h : found = roles.find? binding.refersTo) :
    RoleFound binding roles found where
  eq_find? := h
  eq_none_iff := by
    rw [h, List.find?_eq_none]
    simp
  scope_eq := by
    intro role hrole
    have hrefers : binding.refersTo role = true := List.find?_some (h.symm.trans hrole)
    unfold RoleBinding.refersTo at hrefers
    rw [Bool.and_eq_true] at hrefers
    exact of_decide_eq_true hrefers.1
  eq_of_plainNames hplain := by
    rw [h]
    exact find?_congr_of_mem fun role hrole ↦ refersTo_eq_namesInScope hplain hrole
  eq_designated hplain hkind := by
    rw [h]
    exact find?_congr_of_mem fun role hrole ↦
      (refersTo_eq_namesInScope hplain hrole).trans (designates_eq_namesInScope hkind role).symm

/-- To search the roles of the scope of a binding is to search the roles of both scopes. -/
theorem RoleFound.of_findRole {clusterRoles localRoles : List Role}
    (hwide : ∀ role ∈ clusterRoles, role.scope = .clusterWide)
    (hlocal : ∀ role ∈ localRoles, role.scope = .namespaced) (binding : RoleBinding) :
    RoleFound binding (clusterRoles ++ localRoles) (Escalation.findRole binding
      (match binding.scope with
        | .clusterWide => clusterRoles
        | .namespaced => localRoles)) := by
  apply RoleFound.of_eq_find?
  have hsame {scope : RoleScope} (hscope : binding.scope = scope) {roles : List Role}
      (hroles : ∀ role ∈ roles, role.scope = scope) :
      Escalation.findRole binding roles = roles.find? binding.refersTo := by
    apply find?_congr_of_mem
    intro role hrole
    rw [RoleBinding.refersTo, hroles role hrole, hscope]
    simp
  have hnone {scope other : RoleScope} (hscope : binding.scope = scope) (hne : other ≠ scope)
      {roles : List Role} (hroles : ∀ role ∈ roles, role.scope = other) :
      roles.find? binding.refersTo = none := by
    rw [List.find?_eq_none]
    intro role hrole
    rw [RoleBinding.refersTo, hroles role hrole, hscope, decide_eq_false hne]
    simp
  rw [List.find?_append]
  cases hscope : binding.scope with
  | clusterWide =>
    rw [hnone hscope (by decide) hlocal, Option.or_none]
    exact hsame hscope hwide
  | namespaced =>
    rw [hnone hscope (by decide) hwide, Option.none_or]
    exact hsame hscope hlocal

end ClusterAudit
