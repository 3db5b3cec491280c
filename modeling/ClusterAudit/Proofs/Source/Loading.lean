import ClusterAudit.Proofs.Reordering
import ClusterAudit.Proofs.Source.Filing
import ClusterAudit.Source.Loading
import ClusterAudit.Yaml.Printer
import Mathlib

/-!
# Snapshots from files

Loading a snapshot goes through its files one after another: every file contributes what is filed of
its documents, and the first file that cannot contribute ends the loading with its fault.  A file that
cannot be opened, or whose text is no stream of documents, is refused as a bad snapshot.  Other faults
are not turned into a refusal: those of a path that no file can have, of bytes that are no text, of a
document that cannot be filed, and of a value of which the library makes no document.  All of this holds
whatever library loads the texts.
-/

namespace ClusterAudit.Snapshot

open Manifest SourceM Traversal

/-! ## What a file contributes -/

/-- The manifests that a text with documents contributes, or the fault that ends its loading.  The
fault of a document comes before a defect of the text behind it. -/
def contributionOfText (yaml : Yaml.Library) (path : String) (cs : List Char) :
    Except Fault (List (AssetKind × Value)) :=
  let (docs, defect) := yaml.load cs
  match (Filing.fileAll "" docs).fault, defect with
  | some fault, _ => .error fault
  | none, some defect => .error (faultOf path defect)
  | none, none => .ok (Filing.fileAll "" docs).filed

/-- The manifests that the file at a path contributes, or the fault that ends its loading. -/
def contribution (yaml : Yaml.Library) (directory : Directory) (path : String) :
    Except Fault (List (AssetKind × Value)) :=
  if path.contains '\x00' then .error .nullInPath
  else
    match directory.read (Path.ofText path) with
    | .error fault => .error (.badSnapshot path (fault.message (Path.ofText path).text))
    | .ok bytes =>
      match Text.Utf8.decode bytes with
      | .error fault => .error (.undecodable fault)
      | .ok cs => contributionOfText yaml path (Text.withLineFeeds cs)

section

variable {yaml : Yaml.Library}

theorem addText_run (path : String) (cs : List Char) (snapshot : Snapshot) :
    ((addText yaml path cs).run snapshot).1 = (contributionOfText yaml path cs).map (fun _ ↦ ()) ∧
      ∀ filed, contributionOfText yaml path cs = .ok filed →
        ((addText yaml path cs).run snapshot).2 = snapshot.filing filed := by
  unfold addText contributionOfText
  rcases yaml.load cs with ⟨docs, defect⟩
  dsimp only
  rw [run_bind, addAll_run, Filing.result]
  cases (Filing.fileAll "" docs).fault with
  | some fault =>
    refine ⟨rfl, fun filed h ↦ ?_⟩
    cases h
  | none =>
    cases defect with
    | some defect =>
      refine ⟨rfl, fun filed h ↦ ?_⟩
      cases h
    | none =>
      refine ⟨rfl, fun filed h ↦ ?_⟩
      rw [← Except.ok.inj h]
      rfl

theorem addFile_run (directory : Directory) {path : String} (hpath : path.contains '\x00' = false)
    (snapshot : Snapshot) :
    ((addFile yaml path (directory.read (Path.ofText path))).run snapshot).1 =
        (contribution yaml directory path).map (fun _ ↦ ()) ∧
      ∀ filed, contribution yaml directory path = .ok filed →
        ((addFile yaml path (directory.read (Path.ofText path))).run snapshot).2 =
          snapshot.filing filed := by
  unfold contribution
  rw [hpath, if_neg Bool.false_ne_true]
  cases directory.read (Path.ofText path) with
  | error fault => exact ⟨rfl, fun filed h ↦ nomatch h⟩
  | ok bytes =>
    dsimp only [addFile, addBytes]
    cases Text.Utf8.decode bytes with
    | error fault => exact ⟨rfl, fun filed h ↦ nomatch h⟩
    | ok cs => exact addText_run path (Text.withLineFeeds cs) snapshot

/-- Loading gives the manifests of all files in order, or the fault of the first file that cannot
contribute. -/
theorem load_eq (directory : Directory) (snapshot : Snapshot) (paths : List String) :
    Id.run (load yaml (fun path ↦ pure (directory.read path)) snapshot paths) =
      (fun parts ↦ snapshot.filing parts.flatten) <$> paths.mapM (contribution yaml directory) := by
  induction paths generalizing snapshot with
  | nil =>
    change Except.ok snapshot = Except.ok (snapshot.filing [])
    rw [filing, List.append_nil]
  | cons path rest ih =>
    rw [List.mapM_cons]
    cases hpath : path.contains '\x00' with
    | true =>
      have hfault : contribution yaml directory path = .error .nullInPath := by
        rw [contribution, hpath, if_pos rfl]
      rw [load, hpath, if_pos rfl, hfault]
      rfl
    | false =>
      obtain ⟨hresult, hloaded⟩ := addFile_run directory hpath snapshot
      rw [load, hpath, if_neg Bool.false_ne_true, pure_bind]
      rcases hrun : (addFile yaml path (directory.read (Path.ofText path))).run snapshot with
        ⟨result, loaded⟩
      rw [hrun] at hresult hloaded
      dsimp only at hresult hloaded
      cases hcontribution : contribution yaml directory path with
      | error fault =>
        rw [hresult, hcontribution]
        rfl
      | ok filed =>
        rw [hresult, hcontribution, hloaded filed hcontribution]
        dsimp only [Except.map]
        rw [ih]
        cases rest.mapM (contribution yaml directory) with
        | error fault => rfl
        | ok parts => exact congrArg Except.ok (by simp [filing])

/-- The snapshot of some files holds the manifests of all of them in order. -/
theorem ofDirectory_eq (directory : Directory) (paths : List String) :
    ofDirectory yaml directory paths =
      (fun parts ↦ { manifests := parts.flatten }) <$> paths.mapM (contribution yaml directory) := by
  rw [ofDirectory, load_eq]
  rfl

/-! ## Refusals -/

/-- A path at which there can be a file, and whose file, if it can be opened, is a text of documents
that can be filed, or of which the first ones can be filed and the others cannot be told apart. -/
structure Presentable (yaml : Yaml.Library) (directory : Directory) (path : String) : Prop where
  no_null : path.contains '\x00' = false
  decodable : ∀ bytes, directory.read (Path.ofText path) = .ok bytes →
    (Text.Utf8.decode bytes).isOk = true
  filable : ∀ bytes cs, directory.read (Path.ofText path) = .ok bytes →
    Text.Utf8.decode bytes = .ok cs →
      (∀ doc ∈ (yaml.load (Text.withLineFeeds cs)).1, (Filing.ofDocument doc).fault = none) ∧
        ∀ fault, (yaml.load (Text.withLineFeeds cs)).2 ≠ some (.fault fault)

theorem contribution_of_presentable {directory : Directory} {path : String}
    (h : Presentable yaml directory path) :
    (∃ filed, contribution yaml directory path = .ok filed) ∨
      ∃ reason, contribution yaml directory path = .error (.badSnapshot path reason) := by
  unfold contribution
  rw [h.no_null, if_neg Bool.false_ne_true]
  cases hread : directory.read (Path.ofText path) with
  | error fault => exact .inr ⟨_, rfl⟩
  | ok bytes =>
    obtain ⟨cs, hcs⟩ := exists_of_isOk (h.decodable bytes hread)
    obtain ⟨hfilable, hdefect⟩ := h.filable bytes cs hread hcs
    dsimp only
    rw [hcs]
    dsimp only
    unfold contributionOfText
    rcases hyaml : yaml.load (Text.withLineFeeds cs) with ⟨docs, defect⟩
    rw [hyaml] at hfilable hdefect
    dsimp only at hfilable hdefect ⊢
    rw [Filing.fileAll_of_forall hfilable]
    cases defect with
    | none => exact .inl ⟨_, rfl⟩
    | some defect =>
      cases defect with
      | malformed => exact .inr ⟨_, rfl⟩
      | fault fault => exact absurd rfl (hdefect fault)

/-- Whatever library loads them, files at presentable paths are loaded, or one of them is refused as a bad
snapshot. -/
theorem ofDirectory_of_presentable (yaml : Yaml.Library) (directory : Directory) (paths : List String)
    (h : ∀ path ∈ paths, Presentable yaml directory path) :
    (∃ snapshot, ofDirectory yaml directory paths = .ok snapshot) ∨
      ∃ path ∈ paths, ∃ reason, ofDirectory yaml directory paths = .error (.badSnapshot path reason) := by
  rw [ofDirectory_eq]
  cases hparts : paths.mapM (contribution yaml directory) with
  | ok parts => exact .inl ⟨_, rfl⟩
  | error fault =>
    obtain ⟨path, hpath, hfault⟩ := exists_of_mapM_error hparts
    rcases contribution_of_presentable (h path hpath) with ⟨filed, hfiled⟩ | ⟨reason, hreason⟩
    · rw [hfiled] at hfault
      cases hfault
    · rw [hreason] at hfault
      cases hfault
      exact .inr ⟨path, hpath, reason, rfl⟩

end

def nodeBytes : List UInt8 :=
  [0x7b, 0x22, 0x6b, 0x69, 0x6e, 0x64, 0x22, 0x3a, 0x20, 0x22, 0x4e, 0x6f, 0x64, 0x65, 0x22, 0x7d]

def withNode : Directory := Directory.ofFiles [("a.yaml", nodeBytes)]

/-- A path without a file ends the loading after the file has been added. -/
theorem ofDirectory_of_presentable_missing :
    (∀ path ∈ ["a.yaml", "b.yaml"], Presentable Yaml.own withNode path) ∧
      ((∃ snapshot, ofDirectory Yaml.own withNode ["a.yaml", "b.yaml"] = .ok snapshot) ∨
        ∃ path ∈ ["a.yaml", "b.yaml"], ∃ reason,
          ofDirectory Yaml.own withNode ["a.yaml", "b.yaml"] = .error (.badSnapshot path reason)) := by
  have hread : withNode.read (Path.ofText "a.yaml") = .ok nodeBytes := by cbv
  have hdecode : Text.Utf8.decode nodeBytes = .ok "\x7b\"kind\": \"Node\"\x7d".toList := by
    decide +kernel
  have hdocs : Yaml.own.load (Text.withLineFeeds "\x7b\"kind\": \"Node\"\x7d".toList) =
      ([.map [(.text "kind", .text "Node")]], none) := by cbv
  have hmissing : withNode.read (Path.ofText "b.yaml") = .error .missing := by cbv
  have hall : ∀ path ∈ ["a.yaml", "b.yaml"], Presentable Yaml.own withNode path := by
    intro path hpath
    rcases List.mem_pair.1 hpath with rfl | rfl
    · refine ⟨by simp, fun bytes hbytes ↦ ?_, fun bytes cs hbytes hcs ↦ ?_⟩
      · rw [hread] at hbytes
        cases hbytes
        rw [hdecode]
        rfl
      · rw [hread] at hbytes
        cases hbytes
        rw [hdecode] at hcs
        cases hcs
        rw [hdocs]
        exact ⟨by decide +kernel, by simp⟩
    · refine ⟨by simp, fun bytes hbytes ↦ ?_, fun bytes cs hbytes hcs ↦ ?_⟩
      · rw [hmissing] at hbytes
        cases hbytes
      · rw [hmissing] at hbytes
        cases hbytes
  exact ⟨hall, ofDirectory_of_presentable Yaml.own withNode ["a.yaml", "b.yaml"] hall⟩

/-- A file that holds one byte which starts no character. -/
def undecodable : Directory := Directory.ofFiles [("a.yaml", [0xff])]

/-- A file that is no text is neither loaded nor refused as a bad snapshot. -/
theorem ofDirectory_undecodable :
    ¬∀ (yaml : Yaml.Library) (directory : Directory) (paths : List String),
      (∃ snapshot, ofDirectory yaml directory paths = .ok snapshot) ∨
        ∃ path reason, ofDirectory yaml directory paths = .error (.badSnapshot path reason) := by
  intro h
  have hfault : ofDirectory Yaml.own undecodable ["a.yaml"] =
      .error (.undecodable (.invalidStart 0 0xff)) := by
    cbv
  rcases h Yaml.own undecodable ["a.yaml"] with ⟨snapshot, hsnapshot⟩ | ⟨path, reason, hreason⟩
  · rw [hfault] at hsnapshot
    cases hsnapshot
  · rw [hfault] at hreason
    cases hreason

end ClusterAudit.Snapshot
