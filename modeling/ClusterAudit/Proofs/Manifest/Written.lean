import ClusterAudit.Asset.Basic
import ClusterAudit.Proofs.Manifest.Naming
import ClusterAudit.Proofs.Traversal

/-!
# Values that are written

Values are turned into text unless an integer in them has too many digits.  Names are texts or null, so
whatever is made of names is written, and what is written of values is what they spell.
-/

namespace ClusterAudit

namespace Manifest.Value

variable {α : Type} {parts : List Value} {whole a : α}

@[simp]
theorem isWritable_text (s : String) : isWritable (.text s) = true := by
  simp [isWritable, everyScalar, Scalar.isWritable]

theorem IsName.isWritable {v : Value} (h : v.IsName) : v.isWritable = true := by
  cases h with
  | null => simp [Value.isWritable, everyScalar, Scalar.isWritable]
  | text s => exact isWritable_text s

theorem written_eq_ok_iff :
    written parts whole = .ok a ↔ (∀ part ∈ parts, part.isWritable = true) ∧ whole = a := by
  unfold written
  rw [← List.all_eq_true]
  cases parts.all isWritable with
  | true => simp
  | false => simp

theorem written_of_forall (h : ∀ part ∈ parts, part.isWritable = true) :
    written parts whole = .ok whole :=
  written_eq_ok_iff.2 ⟨h, rfl⟩

theorem written_isOk_iff :
    (written parts whole).isOk = true ↔ ∀ part ∈ parts, part.isWritable = true := by
  constructor
  · intro h
    obtain ⟨a, ha⟩ := Traversal.exists_of_isOk h
    exact (written_eq_ok_iff.1 ha).1
  · intro h
    rw [written_of_forall h]
    rfl

theorem eq_of_written (h : written parts whole = .ok a) : a = whole :=
  (written_eq_ok_iff.1 h).2.symm

theorem of_written_error {fault : Fault} (h : written parts whole = .error fault) :
    fault = .numeralTooLong none ∧ ¬∀ part ∈ parts, part.isWritable = true := by
  rw [written] at h
  split at h
  · cases h
  · rename_i hparts
    cases h
    exact ⟨rfl, fun hall ↦ hparts (List.all_eq_true.2 hall)⟩

@[simp]
theorem display_text (s : String) : display (.text s) = .ok s :=
  written_of_forall (List.forall_mem_singleton.2 (isWritable_text s))

theorem display_of_isWritable {v : Value} (h : v.isWritable = true) : v.display = .ok v.spelling :=
  written_of_forall (List.forall_mem_singleton.2 h)

theorem IsName.display {v : Value} (h : v.IsName) : v.display = .ok v.spelling :=
  display_of_isWritable h.isWritable

end Manifest.Value

open Manifest

/-! ## Names of assets -/

/-- The name of an asset is written, and it is a text or null. -/
def Asset.HasName (asset : Asset) : Prop :=
  ∃ name, asset.writtenName = .ok name ∧ name.IsName

theorem Asset.hasName_iff {asset : Asset} :
    asset.HasName ↔ (∀ part ∈ asset.nameParts, part.isWritable = true) ∧ asset.name.IsName := by
  unfold HasName writtenName
  simp only [Value.written_eq_ok_iff]
  constructor
  · rintro ⟨name, ⟨hparts, rfl⟩, hname⟩
    exact ⟨hparts, hname⟩
  · rintro ⟨hparts, hname⟩
    exact ⟨_, ⟨hparts, rfl⟩, hname⟩

instance (asset : Asset) : Decidable asset.HasName :=
  decidable_of_iff' _ Asset.hasName_iff

theorem Asset.HasName.isName {asset : Asset} (h : asset.HasName) : asset.name.IsName :=
  (Asset.hasName_iff.1 h).2

theorem Asset.HasName.writtenName {asset : Asset} (h : asset.HasName) :
    asset.writtenName = .ok asset.name :=
  Value.written_of_forall (Asset.hasName_iff.1 h).1

/-! ## Identities -/

theorem RoleScope.forall_identityParts {scope : RoleScope} {ns name : Value}
    (hns : scope = .namespaced → ns.IsName) (hname : name.IsName) :
    ∀ part ∈ scope.identityParts ns name, part.isWritable = true := by
  cases scope with
  | namespaced =>
    exact List.forall_mem_cons.2 ⟨(hns rfl).isWritable, List.forall_mem_singleton.2 hname.isWritable⟩
  | clusterWide => exact List.forall_mem_nil _

theorem forall_accountParts {ns name : Value} (hns : ns.IsName) (hname : name.IsName) :
    ∀ part ∈ accountParts ns name, part.isWritable = true := by
  unfold accountParts
  split
  · exact List.forall_mem_nil _
  · exact List.forall_mem_cons.2 ⟨hns.isWritable, List.forall_mem_singleton.2 hname.isWritable⟩

end ClusterAudit
