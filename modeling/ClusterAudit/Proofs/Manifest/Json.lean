import ClusterAudit.Asset.Basic
import ClusterAudit.Proofs.Manifest.Fields
import ClusterAudit.Proofs.Traversal

/-!
# Values as JSON

Values that come as JSON have distinct texts as keys and no dates, and their integers are written.
Reading a manifest may turn pairs into entries, so that other scalars become keys, but the values of
the fields are parts of the manifest.  So the names of objects that are read from JSON are JSON.
-/

namespace ClusterAudit

namespace Manifest

open Traversal

namespace Value

/-- What holds of scalars and passes from parts to wholes holds of all values. -/
@[elab_as_elim]
theorem induction {motive : Value → Prop} (scalar : ∀ s, motive (.scalar s))
    (list : ∀ xs, (∀ x ∈ xs, motive x) → motive (.list xs))
    (map : ∀ es : List Entry, (∀ entry ∈ es, motive entry.2) → motive (.map es)) (v : Value) :
    motive v :=
  match v with
  | .scalar s => scalar s
  | .list xs => list xs fun x _ ↦ induction scalar list map x
  | .map es => map es fun entry _ ↦ induction scalar list map entry.2
termination_by sizeOf v
decreasing_by
  · have hlt := List.sizeOf_lt_of_mem ‹x ∈ xs›
    simp only [Value.list.sizeOf_spec]
    omega
  · have hlt := List.sizeOf_lt_of_mem ‹entry ∈ es›
    have hpair : sizeOf entry = 1 + sizeOf entry.1 + sizeOf entry.2 := rfl
    simp only [Value.map.sizeOf_spec]
    omega

section

variable {check : Scalar → Bool} {checkKeys : List Scalar → Bool}

theorem everyScalar_scalar (s : Scalar) : everyScalar check checkKeys (.scalar s) = check s := by
  rw [everyScalar]

theorem everyScalar_list {xs : List Value} :
    everyScalar check checkKeys (.list xs) = true ↔ ∀ x ∈ xs, everyScalar check checkKeys x = true := by
  rw [everyScalar]
  induction xs with
  | nil => simp [everyScalarOfList]
  | cons x rest ih => simp [everyScalarOfList, ih]

theorem everyScalar_map {es : List Entry} :
    everyScalar check checkKeys (.map es) = true ↔
      checkKeys (es.map (·.1)) = true ∧ ∀ entry ∈ es, everyScalar check checkKeys entry.2 = true := by
  have hentries : everyScalarOfEntries check checkKeys es = true ↔
      ∀ entry ∈ es, everyScalar check checkKeys entry.2 = true := by
    induction es with
    | nil => simp [everyScalarOfEntries]
    | cons entry rest ih => simp [everyScalarOfEntries, ih]
  rw [everyScalar, Bool.and_eq_true, hentries]

end

end Value

/-! ## JSON -/

/-- Whether a scalar can be a value in JSON; integers with more digits than are read or written are
left out. -/
def Scalar.isJson : Scalar → Bool
  | .null | .bool _ | .float _ | .text _ => true
  | .int n => Text.isWritable n
  | .date _ | .moment _ => false

@[simp]
theorem Scalar.isJson_text (s : String) : isJson (.text s) = true := rfl

@[simp]
theorem Scalar.isJson_int (n : Int) : isJson (.int n) = Text.isWritable n := rfl

def Scalar.isText : Scalar → Bool
  | .text _ => true
  | _ => false

theorem Scalar.exists_of_isText {s : Scalar} (h : s.isText = true) : ∃ name, s = .text name := by
  cases s with
  | text name => exact ⟨name, rfl⟩
  | _ => cases h

namespace Value

def isJson (v : Value) : Bool :=
  v.everyScalar Scalar.isJson fun keys ↦ keys.all Scalar.isText && keys.Nodup

@[simp]
theorem isJson_scalar (s : Scalar) : isJson (.scalar s) = s.isJson :=
  everyScalar_scalar s

@[simp]
theorem isJson_list {xs : List Value} : isJson (.list xs) = true ↔ ∀ x ∈ xs, x.isJson = true :=
  everyScalar_list

theorem isJson_map {es : List Entry} :
    isJson (.map es) = true ↔ (∀ key ∈ es.map (·.1), key.isText = true) ∧ (es.map (·.1)).Nodup ∧
      ∀ entry ∈ es, entry.2.isJson = true := by
  rw [isJson, everyScalar_map, Bool.and_eq_true, List.all_eq_true, decide_eq_true_iff, and_assoc]
  rfl

theorem isJson_text (s : String) : isJson (.text s) = true :=
  isJson_scalar (.text s)

theorem IsName.isJson {v : Value} (h : v.IsName) : v.isJson = true := by
  cases h with
  | null => exact isJson_scalar .null
  | text s => exact isJson_text s

/-- If the value is a map, its fields have values that can come as JSON. -/
def HasJsonFields (v : Value) : Prop :=
  ∀ es : List Entry, v = .map es → ∀ entry ∈ es, entry.2.isJson = true

theorem hasJsonFields_map {es : List Entry} :
    HasJsonFields (.map es) ↔ ∀ entry ∈ es, entry.2.isJson = true :=
  ⟨fun h ↦ h es rfl, fun h fs heq ↦ by cases heq; exact h⟩

theorem hasJsonFields_of_isJson {v : Value} (h : v.isJson = true) : v.HasJsonFields := by
  rintro es rfl
  exact (isJson_map.1 h).2.2

theorem hasJsonFields_putEntry {es : List Entry} (h : ∀ entry ∈ es, entry.2.isJson = true)
    (key : Scalar) {value : Value} (hvalue : value.isJson = true) :
    HasJsonFields (.map (putEntry es key value)) := by
  have hall : ∀ entry ∈ putEntry es key value, True ∧ entry.2.isJson = true :=
    forall_mem_putEntry (p := fun _ ↦ True) (q := (·.isJson = true))
      (fun entry hentry ↦ ⟨trivial, h entry hentry⟩) trivial hvalue
  exact hasJsonFields_map.2 fun entry hentry ↦ (hall entry hentry).2

/-! ## Reading JSON values -/

section

variable {v w : Value}

theorem HasJsonFields.orEmptyMap (h : v.HasJsonFields) : v.orEmptyMap.HasJsonFields := by
  unfold Value.orEmptyMap
  split
  · exact h
  · exact hasJsonFields_map.2 (List.forall_mem_nil _)

theorem HasJsonFields.isJson_fieldD (h : v.HasJsonFields) {name : String} {absent : Value}
    (habsent : absent.isJson = true) (hw : v.fieldD name absent = .ok w) : w.isJson = true := by
  unfold fieldD at hw
  split at hw
  · rename_i es
    cases hw
    cases hvalue : valueAt? es (.text name) with
    | none => exact habsent
    | some value =>
      obtain ⟨entry, hentry, rfl⟩ := Option.map_eq_some_iff.1 hvalue
      exact h es rfl entry (List.mem_of_find?_eq_some hentry)
  · cases hw

theorem isJson_elements {xs : List Value} (h : v.isJson = true) (hxs : v.elements = .ok xs) :
    ∀ x ∈ xs, x.isJson = true := by
  unfold elements at hxs
  split at hxs
  · cases hxs
    exact isJson_list.1 h
  · rename_i es
    cases hxs
    intro x hx
    obtain ⟨entry, hentry, rfl⟩ := List.mem_map.1 hx
    obtain ⟨name, hname⟩ :=
      Scalar.exists_of_isText ((isJson_map.1 h).1 entry.1 (List.mem_map_of_mem hentry))
    rw [hname]
    exact isJson_text name
  · cases hxs
    intro x hx
    obtain ⟨c, -, rfl⟩ := List.mem_map.1 hx
    exact isJson_text _
  · cases hxs

theorem isJson_pairEntry {position : ℕ} {entry : Entry} (h : v.isJson = true)
    (hentry : pairEntry position v = .ok entry) : entry.2.isJson = true := by
  obtain ⟨parts, hparts, hentry⟩ := bind_eq_ok hentry
  have hall := isJson_elements h hparts
  split at hentry
  · obtain ⟨-, hvalue⟩ := List.forall_mem_cons.1 hall
    obtain ⟨scalar, -, hentry⟩ := bind_eq_ok hentry
    cases hentry
    exact hvalue _ List.mem_cons_self
  · cases hentry

theorem isJson_pairEntries {pairs : List Value} {position : ℕ} {es : List Entry}
    (h : ∀ pair ∈ pairs, pair.isJson = true) (hes : pairEntries position pairs = .ok es) :
    ∀ entry ∈ es, entry.2.isJson = true := by
  induction pairs generalizing position es with
  | nil =>
    cases hes
    exact List.forall_mem_nil _
  | cons pair rest ih =>
    obtain ⟨hpair, hrest⟩ := List.forall_mem_cons.1 h
    obtain ⟨entry, hentry, hes⟩ := bind_eq_ok hes
    obtain ⟨others, hothers, hes⟩ := bind_eq_ok hes
    cases hes
    exact List.forall_mem_cons.2 ⟨isJson_pairEntry hpair hentry, ih hrest hothers⟩

/-- The entries of a value that comes as JSON have JSON values, whatever their keys are. -/
theorem isJson_toEntries {es : List Entry} (h : v.isJson = true) (hes : v.toEntries = .ok es) :
    ∀ entry ∈ es, entry.2.isJson = true := by
  unfold toEntries at hes
  split at hes
  · cases hes
    exact (isJson_map.1 h).2.2
  · obtain ⟨pairs, hpairs, hes⟩ := bind_eq_ok hes
    obtain ⟨puts, hputs, hes⟩ := bind_eq_ok hes
    cases hes
    have hvalues := isJson_pairEntries (isJson_elements h hpairs) hputs
    have hall := forall_mem_putAll (p := fun _ ↦ True) (q := (·.isJson = true))
      (List.forall_mem_nil _) fun put hput ↦ ⟨trivial, hvalues put hput⟩
    exact fun entry hentry ↦ (hall entry hentry).2

end

end Value

theorem Value.HasJsonFields.metadata {doc header : Value} (h : doc.HasJsonFields)
    (hheader : Manifest.metadata doc = .ok header) : header.HasJsonFields := by
  obtain ⟨v, hv, hheader⟩ := bind_eq_ok hheader
  cases hheader
  exact (hasJsonFields_of_isJson (h.orEmptyMap.isJson_fieldD (isJson_scalar .null) hv)).orEmptyMap

end Manifest

open Manifest Traversal

/-! ## Names of objects -/

/-- The name that a manifest gives in its metadata. -/
def IsNamed (doc name : Value) : Prop :=
  ∃ header, metadata doc = .ok header ∧ header.fieldD "name" (.text "") = .ok name

theorem ServiceAccount.isNamed {doc : Value} {account : ServiceAccount}
    (h : ServiceAccount.ofManifest doc = .ok account) : IsNamed doc account.name := by
  obtain ⟨header, hheader, h⟩ := bind_eq_ok h
  obtain ⟨name, hname, h⟩ := bind_eq_ok h
  obtain ⟨ns, -, h⟩ := bind_eq_ok h
  obtain ⟨token, -, h⟩ := bind_eq_ok h
  cases h
  exact ⟨header, hheader, hname⟩

theorem Node.isNamed {doc : Value} {node : Node} (h : Node.ofManifest doc = .ok node) :
    IsNamed doc node.name := by
  obtain ⟨header, hheader, h⟩ := bind_eq_ok h
  obtain ⟨spec, -, h⟩ := bind_eq_ok h
  obtain ⟨elements, -, h⟩ := bind_eq_ok h
  obtain ⟨taints, -, h⟩ := bind_eq_ok h
  obtain ⟨name, hname, h⟩ := bind_eq_ok h
  obtain ⟨labels, -, h⟩ := bind_eq_ok h
  obtain ⟨entries, -, h⟩ := bind_eq_ok h
  cases h
  exact ⟨header, hheader, hname⟩

theorem Role.isNamed {scope : RoleScope} {doc : Value} {role : Role}
    (h : Role.ofManifest scope doc = .ok role) : IsNamed doc role.name := by
  obtain ⟨header, hheader, h⟩ := bind_eq_ok h
  obtain ⟨name, hname, h⟩ := bind_eq_ok h
  obtain ⟨ns, -, h⟩ := bind_eq_ok h
  obtain ⟨elements, -, h⟩ := bind_eq_ok h
  obtain ⟨rules, -, h⟩ := bind_eq_ok h
  cases h
  exact ⟨header, hheader, hname⟩

theorem RoleBinding.isNamed {scope : RoleScope} {doc : Value} {binding : RoleBinding}
    (h : RoleBinding.ofManifest scope doc = .ok binding) : IsNamed doc binding.name := by
  obtain ⟨header, hheader, h⟩ := bind_eq_ok h
  obtain ⟨ref, -, h⟩ := bind_eq_ok h
  obtain ⟨elements, -, h⟩ := bind_eq_ok h
  obtain ⟨subjects, -, h⟩ := bind_eq_ok h
  obtain ⟨name, hname, h⟩ := bind_eq_ok h
  obtain ⟨ns, -, h⟩ := bind_eq_ok h
  obtain ⟨apiGroup, -, h⟩ := bind_eq_ok h
  obtain ⟨refKind, -, h⟩ := bind_eq_ok h
  obtain ⟨refName, -, h⟩ := bind_eq_ok h
  cases h
  exact ⟨header, hheader, hname⟩

theorem PodSecurityPolicy.isNamed {doc : Value} {policy : PodSecurityPolicy}
    (h : PodSecurityPolicy.ofManifest doc = .ok policy) : IsNamed doc policy.name := by
  obtain ⟨spec, -, h⟩ := bind_eq_ok h
  obtain ⟨strategy, -, h⟩ := bind_eq_ok h
  extract_lets policyWith at h
  -- The name is read after the strategy, whether there is one or not.
  have hpolicyWith (runAsUser : Option UserStrategy) (h : policyWith runAsUser = .ok policy) :
      IsNamed doc policy.name := by
    obtain ⟨header, hheader, h⟩ := bind_eq_ok h
    obtain ⟨name, hname, h⟩ := bind_eq_ok h
    obtain ⟨privileged, -, h⟩ := bind_eq_ok h
    obtain ⟨hostPID, -, h⟩ := bind_eq_ok h
    obtain ⟨hostIPC, -, h⟩ := bind_eq_ok h
    obtain ⟨hostNetwork, -, h⟩ := bind_eq_ok h
    obtain ⟨escalation, -, h⟩ := bind_eq_ok h
    obtain ⟨allowed, -, h⟩ := bind_eq_ok h
    obtain ⟨dropped, -, h⟩ := bind_eq_ok h
    obtain ⟨required, -, h⟩ := bind_eq_ok h
    cases h
    exact ⟨header, hheader, hname⟩
  split at h
  · obtain ⟨given, -, h⟩ := bind_eq_ok h
    exact hpolicyWith (some given) h
  · exact hpolicyWith none h

/-- The identity of an object is a text or the name that its metadata give. -/
theorem RoleScope.isJson_identity {scope : RoleScope} {ns name : Value} (h : name.isJson = true) :
    (scope.identity ns name).isJson = true := by
  cases scope with
  | namespaced => exact Value.isJson_text _
  | clusterWide => exact h

theorem IsNamed.isJson {doc name : Value} (h : IsNamed doc name) (hdoc : doc.HasJsonFields) :
    name.isJson = true := by
  obtain ⟨header, hheader, hname⟩ := h
  exact (hdoc.metadata hheader).isJson_fieldD (Value.isJson_text "") hname

/-- An object that is read from a manifest whose fields are JSON has JSON as its name. -/
theorem Asset.isJson_name {kind : AssetKind} {doc : Value} {asset : Asset}
    (hdoc : doc.HasJsonFields) (h : Asset.ofManifest kind doc = .ok asset) :
    asset.name.isJson = true := by
  cases kind with
  | schedulingPair | escalationDependency => cases h
  | serviceAccount =>
    obtain ⟨account, haccount, rfl⟩ := map_eq_ok h
    exact (ServiceAccount.isNamed haccount).isJson hdoc
  | node =>
    obtain ⟨node, hnode, rfl⟩ := map_eq_ok h
    exact (Node.isNamed hnode).isJson hdoc
  | pod =>
    obtain ⟨pod, -, rfl⟩ := map_eq_ok h
    exact Value.isJson_text _
  | role | clusterRole =>
    obtain ⟨role, hrole, rfl⟩ := map_eq_ok h
    exact RoleScope.isJson_identity ((Role.isNamed hrole).isJson hdoc)
  | roleBinding | clusterRoleBinding =>
    obtain ⟨binding, hbinding, rfl⟩ := map_eq_ok h
    exact RoleScope.isJson_identity ((RoleBinding.isNamed hbinding).isJson hdoc)
  | podSecurityPolicy =>
    obtain ⟨policy, hpolicy, rfl⟩ := map_eq_ok h
    exact (PodSecurityPolicy.isNamed hpolicy).isJson hdoc

end ClusterAudit
