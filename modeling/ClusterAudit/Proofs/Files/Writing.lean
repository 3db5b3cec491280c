import ClusterAudit.Files.Directory
import ClusterAudit.Proofs.Traversal

/-!
# Written files

A path at which a file was written leads to that file, and what lies elsewhere stays as it was.  A
directory stays one when a file is written, so a path is walked as before.
-/

namespace ClusterAudit.Directory

variable {directory : Directory} {components : List String} {bytes : List UInt8}

/-! ## Putting a file -/

theorem bytesAt?_put_self (directory : Directory) (components : List String) (bytes : List UInt8) :
    (directory.put components bytes).bytesAt? components = some bytes := by
  have hothers : (directory.files.filter fun file ↦ file.1 ≠ components).find?
      (fun file ↦ file.1 = components) = none := by
    rw [List.find?_eq_none]
    intro file hfile
    simpa using (List.mem_filter.1 hfile).2
  simp only [bytesAt?, put]
  rw [List.find?_append, hothers]
  simp

theorem bytesAt?_put_of_ne {other : List String} (h : other ≠ components) :
    (directory.put components bytes).bytesAt? other = directory.bytesAt? other := by
  have hself : [(components, bytes)].find? (fun file ↦ file.1 = other) = none := by
    simpa using h.symm
  have hothers : (directory.files.filter fun file ↦ file.1 ≠ components).find?
      (fun file ↦ file.1 = other) = directory.files.find? fun file ↦ file.1 = other := by
    rw [List.find?_filter]
    congr 1
    funext file
    grind
  simp only [bytesAt?, put]
  rw [List.find?_append, hself, hothers, Option.or_none]

/-- What was a directory is one after a file was put. -/
theorem hasBelow_put {other : List String} (h : directory.hasBelow other = true) :
    (directory.put components bytes).hasBelow other = true := by
  obtain ⟨file, hfile, hbelow⟩ := List.any_eq_true.1 h
  by_cases hself : file.1 = components
  · refine List.any_eq_true.2 ⟨(components, bytes), ?_, hself ▸ hbelow⟩
    exact List.mem_append_right _ (List.mem_singleton_self _)
  · refine List.any_eq_true.2 ⟨file, ?_, hbelow⟩
    exact List.mem_append_left _ (List.mem_filter.2 ⟨hfile, by simpa using hself⟩)

/-! ## Walking to a file that was put -/

/-- A path leads to a place where a file can be written. -/
inductive LeadsTo (components : List String) : Except FileFault Place → Prop
  | vacant : LeadsTo components (.ok (.vacant components))
  | file (bytes : List UInt8) : LeadsTo components (.ok (.file components bytes))

theorem walk_component (directory : Directory) {component : String}
    (hlength : ¬nameLimit < component.utf8ByteSize) (hparent : ¬component = "..")
    (here rest : List String) :
    directory.walk (some here) (component :: rest) =
      match directory.bytesAt? (here ++ [component]) with
      | some bytes =>
        if rest.isEmpty then .ok (.file (here ++ [component]) bytes) else .error .notDirectory
      | none =>
        if directory.hasBelow (here ++ [component]) then
          directory.walk (some (here ++ [component])) rest
        else if rest.isEmpty then .ok (.vacant (here ++ [component]))
        else .error .missing := by
  rw [walk.eq_def]
  exact (if_neg hlength).trans (if_neg hparent)

/-- A path that leads to a place for a file, which is no directory, leads to the file that is put
there. -/
theorem walk_put {reached : Option (List String)} {rest : List String}
    (h : LeadsTo components (directory.walk reached rest)) (bytes : List UInt8) :
    (directory.bytesAt? components = none → directory.hasBelow components = false) ∧
      (directory.put components bytes).walk reached rest = .ok (.file components bytes) := by
  fun_induction walk directory reached rest with
  | case1 => cases h
  | case2 => cases h
  | case3 reached rest hlength ih =>
    rw [walk.eq_def (directory.put components bytes)]
    dsimp only
    rw [if_neg hlength, if_pos rfl]
    exact ih h
  | case4 => cases h
  | case5 component rest hlength hparent here place old hold hlast =>
    change LeadsTo components (.ok (.file (here ++ [component]) old)) at h
    cases h
    rw [walk_component _ hlength hparent, bytesAt?_put_self, hold]
    exact ⟨nofun, if_pos hlast⟩
  | case6 => cases h
  | case7 component rest hlength hparent here place hnone hbelow ih =>
    obtain ⟨hplace, hwalk⟩ := ih h
    -- A directory on the way is not the place where the file is put.
    have hne : place ≠ components := by
      intro hself
      rw [← hself] at hplace
      rw [hplace hnone] at hbelow
      cases hbelow
    rw [walk_component _ hlength hparent, bytesAt?_put_of_ne hne, hnone]
    exact ⟨hplace, (if_pos (hasBelow_put hbelow)).trans hwalk⟩
  | case8 component rest hlength hparent here place hnone hbelow hlast =>
    change LeadsTo components (.ok (.vacant (here ++ [component]))) at h
    cases h
    rw [walk_component _ hlength hparent, bytesAt?_put_self]
    exact ⟨fun _ ↦ Bool.eq_false_iff.2 hbelow, if_pos hlast⟩
  | case9 => cases h

/-! ## Writing -/

/-- How a directory differs after bytes were written to the file at a path: the path leads to a file
with these bytes, and all other files are as they were. -/
def Wrote (before : Directory) (path : Path) (bytes : List UInt8) (after : Directory) : Prop :=
  ∃ components, after.locate path = .ok (.file components bytes) ∧
    ∀ other, other ≠ components → after.bytesAt? other = before.bytesAt? other

theorem locate_put {path : Path} (h : LeadsTo components (directory.locate path))
    (bytes : List UInt8) :
    (directory.put components bytes).locate path = .ok (.file components bytes) := by
  unfold locate at h ⊢
  split at h
  · cases h
  · rename_i hlength
    rw [if_neg hlength]
    exact (walk_put h bytes).2

theorem wrote_of_write {path : Path} {after : Directory}
    (h : directory.write path bytes = .ok after) : directory.Wrote path bytes after := by
  obtain ⟨place, hplace, hwritten⟩ := Traversal.bind_eq_ok h
  have hput : ∃ components, LeadsTo components (directory.locate path) ∧
      after = directory.put components bytes := by
    rw [hplace]
    cases place with
    | directory => cases hwritten
    | vacant components =>
      cases hwritten
      exact ⟨components, .vacant, rfl⟩
    | file components old =>
      cases hwritten
      exact ⟨components, .file old, rfl⟩
  obtain ⟨components, hleads, rfl⟩ := hput
  exact ⟨components, locate_put hleads bytes, fun other hother ↦ bytesAt?_put_of_ne hother⟩

end ClusterAudit.Directory
