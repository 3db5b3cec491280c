import ClusterAudit.Asset.Basic
import ClusterAudit.Proofs.Manifest.Naming
import Mathlib.Data.List.Forall2

/-!
# Fields of manifests

Entries behind others and a value put under another text do not change the value of a field.  What a
manifest is read as depends on the values of its fields only, whatever their order, and not on the
field of the kind: the kind under which a manifest is listed decides how it is read.
-/

namespace ClusterAudit

namespace Manifest

/-! ## Values of keys -/

theorem valueAt?_cons (entry : Entry) (rest : List Entry) (key : Scalar) :
    valueAt? (entry :: rest) key = if entry.1.same key then some entry.2 else valueAt? rest key := by
  unfold valueAt?
  rw [List.find?_cons]
  cases entry.1.same key with
  | true => rfl
  | false => rfl

theorem valueAt?_append (entries more : List Entry) (key : Scalar) :
    valueAt? (entries ++ more) key = (valueAt? entries key).or (valueAt? more key) := by
  unfold valueAt?
  rw [List.find?_append, Option.map_or]

/-- Putting a value under one text leaves the values of all other texts. -/
theorem valueAt?_putEntry_of_ne {name other : String} (h : other ≠ name) (entries : List Entry)
    (value : Value) :
    valueAt? (putEntry entries (.text name) value) (.text other) = valueAt? entries (.text other) := by
  have hother : ¬ (Scalar.text name).same (.text other) = true := by simpa using h.symm
  induction entries with
  | nil => rw [putEntry, valueAt?_cons, if_neg hother]
  | cons entry rest ih =>
    obtain ⟨key, first⟩ := entry
    rw [putEntry]
    split
    · rename_i hname
      rw [Scalar.same_text_right, decide_eq_true_iff] at hname
      rw [hname, valueAt?_cons, valueAt?_cons, if_neg hother, if_neg hother]
    · rw [valueAt?_cons, valueAt?_cons, ih]

/-- The value that was put under a text is the value of this text. -/
theorem valueAt?_putEntry_self (name : String) (entries : List Entry) (value : Value) :
    valueAt? (putEntry entries (.text name) value) (.text name) = some value := by
  induction entries with
  | nil => simp [putEntry, valueAt?_cons]
  | cons entry rest ih =>
    obtain ⟨key, first⟩ := entry
    rw [putEntry]
    split
    · rename_i hname
      rw [valueAt?_cons, if_pos hname]
    · rename_i hname
      rw [valueAt?_cons, if_neg hname, ih]

section

variable {p : Scalar → Prop} {q : Value → Prop} {entries : List Entry}

/-- What holds of all keys and values and of an entry that is put holds of the entries afterwards. -/
theorem forall_mem_putEntry {key : Scalar} {value : Value}
    (h : ∀ entry ∈ entries, p entry.1 ∧ q entry.2) (hkey : p key) (hvalue : q value) :
    ∀ entry ∈ putEntry entries key value, p entry.1 ∧ q entry.2 := by
  induction entries with
  | nil => exact List.forall_mem_singleton.2 ⟨hkey, hvalue⟩
  | cons entry rest ih =>
    obtain ⟨hentry, hrest⟩ := List.forall_mem_cons.1 h
    rw [putEntry]
    split
    · exact List.forall_mem_cons.2 ⟨⟨hentry.1, hvalue⟩, hrest⟩
    · exact List.forall_mem_cons.2 ⟨hentry, ih hrest⟩

theorem forall_mem_putAll {puts : List Entry} (h : ∀ entry ∈ entries, p entry.1 ∧ q entry.2)
    (hputs : ∀ put ∈ puts, p put.1 ∧ q put.2) :
    ∀ entry ∈ putAll entries puts, p entry.1 ∧ q entry.2 := by
  induction puts generalizing entries with
  | nil => exact h
  | cons put rest ih =>
    obtain ⟨hput, hrest⟩ := List.forall_mem_cons.1 hputs
    exact ih (forall_mem_putEntry h hput.1 hput.2) hrest

end

/-! ## Manifests that differ in their kinds -/

/-- Two maps with the same values in all fields, the field of the kind apart. -/
def Value.AlikeButKind (v w : Value) : Prop :=
  ∃ es fs, v = .map es ∧ w = .map fs ∧
    ∀ name, name ≠ "kind" → valueAt? es (.text name) = valueAt? fs (.text name)

namespace Value.AlikeButKind

variable {v w : Value}

theorem of_putEntry (entries : List Entry) (kind : Value) :
    AlikeButKind (.map entries) (.map (putEntry entries (.text "kind") kind)) :=
  ⟨entries, _, rfl, rfl, fun _ hname ↦ (valueAt?_putEntry_of_ne hname entries kind).symm⟩

theorem of_append (entries : List Entry) (kind : Value) :
    AlikeButKind (.map entries) (.map (entries ++ [(.text "kind", kind)])) := by
  refine ⟨entries, _, rfl, rfl, ?_⟩
  intro name hname
  have hkind : ¬ (Scalar.text "kind").same (.text name) = true := by simpa using hname.symm
  rw [valueAt?_append, valueAt?_cons, if_neg hkind]
  exact Option.or_none.symm

theorem symm (h : AlikeButKind v w) : AlikeButKind w v := by
  obtain ⟨es, fs, rfl, rfl, hfields⟩ := h
  exact ⟨fs, es, rfl, rfl, fun name hname ↦ (hfields name hname).symm⟩

theorem trans {x : Value} (h : AlikeButKind v w) (h' : AlikeButKind w x) : AlikeButKind v x := by
  obtain ⟨es, fs, rfl, rfl, hfields⟩ := h
  obtain ⟨_, gs, hsame, rfl, hfields'⟩ := h'
  cases hsame
  exact ⟨es, gs, rfl, rfl, fun name hname ↦ (hfields name hname).trans (hfields' name hname)⟩

theorem field_eq (h : AlikeButKind v w) (name : String) (hname : name ≠ "kind") :
    v.orEmptyMap.field name = w.orEmptyMap.field name := by
  have hmap (entries : List Entry) : (Value.map entries).orEmptyMap = .map entries := by
    cases entries with
    | nil => rfl
    | cons entry rest => rfl
  obtain ⟨es, fs, rfl, rfl, hfields⟩ := h
  rw [hmap, hmap, field, fieldD, field, fieldD, hfields name hname]

theorem fieldElements_eq (h : AlikeButKind v w) (name : String) (hname : name ≠ "kind") :
    v.orEmptyMap.fieldElements name = w.orEmptyMap.fieldElements name := by
  rw [fieldElements, fieldElements, h.field_eq name hname]

theorem metadata_eq (h : AlikeButKind v w) : metadata v = metadata w := by
  rw [metadata, metadata, h.field_eq "metadata" (by decide)]

theorem specification_eq (h : AlikeButKind v w) : specification v = specification w := by
  rw [specification, specification, h.field_eq "spec" (by decide)]

theorem role_eq (h : AlikeButKind v w) (scope : RoleScope) :
    Role.ofManifest scope v = Role.ofManifest scope w := by
  unfold Role.ofManifest
  rw [h.metadata_eq, h.fieldElements_eq "rules" (by decide)]

theorem binding_eq (h : AlikeButKind v w) (scope : RoleScope) :
    RoleBinding.ofManifest scope v = RoleBinding.ofManifest scope w := by
  unfold RoleBinding.ofManifest
  rw [h.metadata_eq, h.field_eq "roleRef" (by decide), h.fieldElements_eq "subjects" (by decide)]

/-- Reading a manifest as a kind does not look at the kind that the manifest names. -/
theorem ofManifest_eq (h : AlikeButKind v w) (kind : AssetKind) :
    Asset.ofManifest kind v = Asset.ofManifest kind w := by
  cases kind with
  | schedulingPair | escalationDependency => rfl
  | role | clusterRole => rw [Asset.ofManifest, Asset.ofManifest, h.role_eq]
  | roleBinding | clusterRoleBinding => rw [Asset.ofManifest, Asset.ofManifest, h.binding_eq]
  | serviceAccount =>
    unfold Asset.ofManifest ServiceAccount.ofManifest
    rw [h.metadata_eq, h.field_eq "automountServiceAccountToken" (by decide)]
  | node =>
    unfold Asset.ofManifest Node.ofManifest
    rw [h.metadata_eq, h.specification_eq]
  | pod =>
    unfold Asset.ofManifest Pod.ofManifest
    rw [h.metadata_eq, h.specification_eq, h.field_eq "status" (by decide)]
  | podSecurityPolicy =>
    unfold Asset.ofManifest PodSecurityPolicy.ofManifest
    rw [h.metadata_eq, h.specification_eq]

/-- Manifests that differ in their kinds only are read alike, one after another. -/
theorem mapM_ofManifest_eq {docs others : List Value} (h : List.Forall₂ AlikeButKind docs others)
    (kind : AssetKind) :
    docs.mapM (Asset.ofManifest kind) = others.mapM (Asset.ofManifest kind) := by
  induction h with
  | nil => rfl
  | cons hfirst _ ih => rw [List.mapM_cons, List.mapM_cons, hfirst.ofManifest_eq kind, ih]

end Value.AlikeButKind

end Manifest

end ClusterAudit
