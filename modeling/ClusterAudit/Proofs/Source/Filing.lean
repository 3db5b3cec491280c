import ClusterAudit.Proofs.Source.Steps
import ClusterAudit.Source.Snapshot

/-!
# Filing many documents

Adding documents to a snapshot files them one after another, up to the first one that cannot be
filed.  Filing some documents and then others is filing them all.
-/

namespace ClusterAudit

open Manifest SourceM

namespace Filing

/-! ## One filing after another -/

variable {first second : Filing}

theorem andThen_of_fault {fault : Fault} (h : first.fault = some fault) (second : Filing) :
    first.andThen second = first := by
  rw [andThen, h]
  rfl

theorem andThen_of_no_fault (h : first.fault = none) (second : Filing) :
    first.andThen second = ⟨first.filed ++ second.filed, second.fault⟩ := by
  rw [andThen, h]
  rfl

theorem nothing_andThen (second : Filing) : nothing.andThen second = second :=
  andThen_of_no_fault rfl second

theorem andThen_assoc (first second third : Filing) :
    (first.andThen second).andThen third = first.andThen (second.andThen third) := by
  cases hfirst : first.fault with
  | some fault => rw [andThen_of_fault hfirst, andThen_of_fault hfirst, andThen_of_fault hfirst]
  | none =>
    rw [andThen_of_no_fault hfirst, andThen_of_no_fault hfirst]
    cases hsecond : second.fault with
    | some fault =>
      rw [andThen_of_fault hsecond, andThen_of_fault rfl, hsecond]
    | none =>
      rw [andThen_of_no_fault rfl, andThen_of_no_fault hsecond, List.append_assoc]

theorem fileAll_append (inherited : String) (docs more : List Value) :
    fileAll inherited (docs ++ more) = (fileAll inherited docs).andThen (fileAll inherited more) := by
  induction docs with
  | nil => rw [fileAll, nothing_andThen, List.nil_append]
  | cons doc rest ih => rw [List.cons_append, fileAll, ih, fileAll, andThen_assoc]

/-- When nothing stops a filing of documents, nothing stops the filing of the first ones, and what is
filed of them comes first. -/
theorem fileAll_append_of_no_fault {inherited : String} {docs more : List Value}
    (h : (fileAll inherited (docs ++ more)).fault = none) :
    (fileAll inherited docs).fault = none ∧
      (fileAll inherited (docs ++ more)).filed =
        (fileAll inherited docs).filed ++ (fileAll inherited more).filed := by
  rw [fileAll_append] at h ⊢
  cases hdocs : (fileAll inherited docs).fault with
  | some fault =>
    rw [andThen_of_fault hdocs, hdocs] at h
    cases h
  | none => exact ⟨rfl, by rw [andThen_of_no_fault hdocs]⟩

/-- Documents can be filed when each of them can, and then what is filed of them is put together. -/
theorem fileAll_of_forall {inherited : String} {docs : List Value}
    (h : ∀ doc ∈ docs, (fileDoc inherited doc).fault = none) :
    fileAll inherited docs = ⟨docs.flatMap fun doc ↦ (fileDoc inherited doc).filed, none⟩ := by
  induction docs with
  | nil => rw [fileAll, nothing, List.flatMap_nil]
  | cons doc rest ih =>
    obtain ⟨hdoc, hrest⟩ := List.forall_mem_cons.1 h
    rw [fileAll, andThen_of_no_fault hdoc, ih hrest, List.flatMap_cons]

theorem forall_of_fault_eq_none {inherited : String} {docs : List Value}
    (h : (fileAll inherited docs).fault = none) : ∀ doc ∈ docs, (fileDoc inherited doc).fault = none := by
  induction docs with
  | nil => exact List.forall_mem_nil _
  | cons doc rest ih =>
    rw [fileAll] at h
    cases hdoc : (fileDoc inherited doc).fault with
    | some fault =>
      rw [andThen_of_fault hdoc, hdoc] at h
      cases h
    | none =>
      rw [andThen_of_no_fault hdoc] at h
      exact List.forall_mem_cons.2 ⟨hdoc, ih h⟩

/-- Documents that can be filed can be filed in any order, with the same manifests in another order. -/
theorem fileAll_perm {inherited : String} {docs others : List Value} (hperm : docs.Perm others)
    (h : (fileAll inherited docs).fault = none) :
    (fileAll inherited others).fault = none ∧
      (fileAll inherited docs).filed.Perm (fileAll inherited others).filed := by
  have hdocs := forall_of_fault_eq_none h
  rw [fileAll_of_forall hdocs, fileAll_of_forall fun doc hdoc ↦ hdocs doc (hperm.mem_iff.2 hdoc)]
  exact ⟨rfl, hperm.flatMap_right _⟩

/-- The fault that has stopped a filing, if any. -/
def result (filing : Filing) : Except Fault Unit :=
  match filing.fault with
  | some fault => .error fault
  | none => .ok ()

theorem result_isOk_iff {filing : Filing} : filing.result.isOk = true ↔ filing.fault = none := by
  unfold result
  cases filing.fault with
  | some fault => simp [Except.isOk, Except.toBool]
  | none => simp [Except.isOk, Except.toBool]

theorem fault_of_result {filing : Filing} (h : filing.result = .ok ()) : filing.fault = none := by
  unfold result at h
  split at h
  · cases h
  · assumption

end Filing

/-! ## Adding documents -/

namespace Snapshot

def filing (snapshot : Snapshot) (filed : List (AssetKind × Value)) : Snapshot :=
  { snapshot with manifests := snapshot.manifests ++ filed }

theorem add_run (doc : Value) (snapshot : Snapshot) :
    (add doc).run snapshot =
      ((Filing.ofDocument doc).result, snapshot.filing (Filing.ofDocument doc).filed) := by
  unfold add
  dsimp only
  rw [run_bind_of_ok (run_modify _ snapshot), Filing.result]
  cases (Filing.ofDocument doc).fault with
  | some fault => rfl
  | none => rfl

theorem addAll_run (docs : List Value) (snapshot : Snapshot) :
    (addAll docs).run snapshot =
      ((Filing.fileAll "" docs).result, snapshot.filing (Filing.fileAll "" docs).filed) := by
  induction docs generalizing snapshot with
  | nil =>
    rw [addAll, run_pure, Filing.fileAll, filing]
    simp [Filing.nothing, Filing.result]
  | cons doc rest ih =>
    have hdoc : Filing.ofDocument doc = Filing.fileDoc "" doc := rfl
    rw [addAll, run_bind, add_run, Filing.fileAll, hdoc]
    cases hfault : (Filing.fileDoc "" doc).fault with
    | some fault => rw [Filing.andThen_of_fault hfault, Filing.result, hfault]
    | none =>
      rw [Filing.andThen_of_no_fault hfault, Filing.result, hfault]
      dsimp only
      rw [ih, filing, filing, filing, List.append_assoc]
      rfl

end Snapshot

end ClusterAudit
