import ClusterAudit.Proofs.Files.Writing
import ClusterAudit.Proofs.Json.RoundTrip
import ClusterAudit.Proofs.Session.Reporting

/-!
# Saved reports

A session writes nothing before its report, and what fails in it fails before the report is written: the
format is decided before the file is opened, and the document of a scan of manifests that are JSON can
always be written.  So a session either leaves all files as they are or ends well with its report in the
requested file, where the report is read back from the text in the file.

Only the line which tells that the report was saved comes after it.  The file is named in this line, so a
console that takes a part of a name for a mark may refuse the line, and end the session, when the report is
there already.
-/

namespace ClusterAudit

/-- The library writes every value that is JSON, and reads the value from its text again, where a
floating-point number may be read as another one. -/
def Yaml.Library.KeepsJson (yaml : Yaml.Library) : Prop :=
  ∀ v : Manifest.Value, v.isJson = true →
    ∃ text f, yaml.dump v = .ok text ∧ yaml.load text.toList = ([v.mapFloats f], none)

namespace Session

open Manifest

variable {equipment : Equipment} {cluster after : Cluster} {scene reached : Scene}

/-! ## Report files -/

/-- The report file of a configuration at a scene, where it may be asked for. -/
def Scene.requested (scene : Scene) (config : AuditConfig) : Option String :=
  match config.outputFile with
  | some file => some file
  | none =>
    if config.interactive && scene.savingAnswer = .given true then scene.fileAnswer.given?
    else none

theorem eq_fileAnswer_of_askForFile {file : Option String}
    (h : play (askForFile (Scene.desk equipment)) cluster scene = ((.ok file, after), reached)) :
    file = if scene.savingAnswer = .given true then scene.fileAnswer.given? else none := by
  obtain ⟨answer, _, _, hsaving, h⟩ := exists_of_play_bind_ok h
  obtain ⟨hanswer, rfl, rfl⟩ := eq_of_play_ask hsaving
  change answer = scene.savingAnswer.given? at hanswer
  split at h
  · obtain ⟨now, _, _, hnow, h⟩ := exists_of_play_bind_ok h
    cases hnow
    obtain ⟨hfile, -, -⟩ := eq_of_play_ask h
    rw [if_pos (Answer.given?_eq_some.1 hanswer.symm)]
    exact hfile
  · rename_i hno
    cases h
    rw [if_neg]
    intro hyes
    rw [hyes] at hanswer
    exact hno hanswer

/-- Asking for a report file prints no items. -/
theorem NotesOnly.reportFile (equipment : Equipment) (config : AuditConfig) :
    NotesOnly (·.item? = none) (reportFile (Scene.desk equipment) config) := by
  unfold Session.reportFile
  split
  · exact .pure _
  · split
    · have hsaving : NotesOnly (·.item? = none) (ask (Scene.desk equipment).askSaving) := .ask _ rfl
      have hnow : NotesOnly (·.item? = none) (atDesk (Scene.desk equipment).now) :=
        of_play fun _ _ ↦ rfl
      refine hsaving.bind fun answer ↦ ?_
      split
      · exact hnow.bind fun now ↦ .ask _ rfl
      · exact .pure _
    · exact .pure _

/-- The report file that is found is the requested one. -/
theorem eq_requested_of_reportFile {config : AuditConfig} {file : Option String}
    (h : play (reportFile (Scene.desk equipment) config) cluster scene =
      ((.ok file, after), reached)) : file = scene.requested config := by
  unfold reportFile at h
  unfold Scene.requested
  cases hfile : config.outputFile with
  | some named =>
    rw [hfile] at h
    cases h
    rfl
  | none =>
    rw [hfile] at h
    cases hinteractive : config.interactive with
    | true =>
      rw [hinteractive, if_pos rfl] at h
      rw [eq_fileAnswer_of_askForFile h, Bool.true_and]
      simp
    | false =>
      rw [hinteractive, if_neg Bool.false_ne_true] at h
      cases h
      rfl

/-- The console takes the line which tells that a report was saved in the file. -/
def TakesNotice (screen : Console.Screen) (file : String) : Prop :=
  screen (.line (savedNotice (Path.ofText file))) = none

theorem TakesNotice.play_announce {file : String} (h : TakesNotice equipment.screen file)
    (cluster : Cluster) (scene : Scene) :
    play (announce (Scene.desk equipment) (savedNotice (Path.ofText file))) cluster scene =
      ((.ok (), cluster), scene.noting [.shown (.line (savedNotice (Path.ofText file)))]) := by
  have htaken : (Scene.desk equipment).screen (.line (savedNotice (Path.ofText file))) = none := h
  rw [announce, htaken]
  rfl

/-! ## Saving -/

/-- The value that a text holds in a format. -/
def contents? (yaml : Yaml.Library) (format : ReportFormat) (text : String) : Option Value :=
  match format with
  | .json => Json.read text
  | .yaml =>
    match yaml.load text.toList with
    | ([document], none) => some document
    | _ => none

/-- The report of an outcome stands in the file of the given name: the text in the file is read as the
document of the outcome, up to floating-point numbers, and what it has as total are the counts that were
printed.  No other file has changed. -/
structure Saves (yaml : Yaml.Library) (config : AuditConfig) (outcome : ScanOutcome) (file : String)
    (before after : Scene) : Prop where
  reported : Reported config outcome after.items
  written : ∃ format text document f, ReportFormat.ofPath (Path.ofText file) = .ok format ∧
    before.files.Wrote (Path.ofText file) text.toUTF8.toList after.files ∧
    Document.ofOutcome outcome before.now = .ok document ∧
    contents? yaml format text = some (document.mapFloats f) ∧
    Document.under "total" (document.mapFloats f) = Document.ofTally outcome.result

/-- A document that is JSON is written in every format, and read back from its text. -/
theorem exists_formatted {yaml : Yaml.Library} (hyaml : yaml.KeepsJson) (format : ReportFormat)
    {document : Value} (h : document.isJson = true) : ∃ text f,
      formatted yaml format document = .ok text ∧
        contents? yaml format text = some (document.mapFloats f) := by
  cases format with
  | json =>
    obtain ⟨text, hwrite, hread⟩ := Json.exists_read_write h .indented
    exact ⟨text, _, hwrite, hread⟩
  | yaml =>
    obtain ⟨text, f, hdump, hload⟩ := hyaml document h
    exact ⟨text, f, hdump, by rw [contents?, hload]⟩

theorem valueAt?_mapFloats (f : Binary64 → Binary64) (es : List Entry) (key : Scalar) :
    valueAt? (es.map fun entry ↦ (entry.1, entry.2.mapFloats f)) key =
      (valueAt? es key).map (Value.mapFloats f) := by
  rw [valueAt?, valueAt?, List.find?_map, Option.map_map, Option.map_map]
  rfl

theorem under_mapFloats (f : Binary64 → Binary64) (name : String) (v : Value) :
    Document.under name (v.mapFloats f) = (Document.under name v).mapFloats f := by
  have hnull : Value.mapFloats f .null = .null := Value.mapFloats_scalar f .null
  cases v with
  | scalar s =>
    rw [Value.mapFloats_scalar]
    exact hnull.symm
  | list xs =>
    rw [Value.mapFloats_list]
    exact hnull.symm
  | map es =>
    rw [Value.mapFloats_map, Document.under, Document.under, valueAt?_mapFloats]
    cases valueAt? es (.text name) with
    | none => exact hnull.symm
    | some v => rfl

/-- The total of a document has no floating-point numbers. -/
theorem under_total_mapFloats (f : Binary64 → Binary64) (outcome : ScanOutcome) (madeAt : Moment) :
    Document.under "total" ((Document.draft outcome madeAt).mapFloats f) =
      Document.ofTally outcome.result := by
  rw [under_mapFloats, Document.under_total_draft]
  simp [Document.ofTally, Document.record, Scalar.mapFloat]

theorem write_run (path : Path) (text : String) (scene : Scene) :
    (Scene.write path text).run scene =
      pure (match scene.files.write path text.toUTF8.toList with
        | .error fault => (.error fault, scene)
        | .ok files => (.ok (), { scene with files })) := by
  have hget : (get : StateM Scene Scene).run scene = pure (scene, scene) := rfl
  rw [Scene.write, StateT.run_bind, hget, pure_bind]
  dsimp only
  cases scene.files.write path text.toUTF8.toList with
  | error fault => rfl
  | ok files => rfl

/-- A document that is JSON is either not saved at all, or saved in the format of its path. -/
theorem save_run (hyaml : equipment.yaml.KeepsJson) (file : String) {document : Value}
    (h : document.isJson = true) (scene : Scene) :
    (∃ fault, (save (Scene.desk equipment) file document).run scene = (.error fault, scene)) ∨
      ∃ format text f files, ReportFormat.ofPath (Path.ofText file) = .ok format ∧
        contents? equipment.yaml format text = some (document.mapFloats f) ∧
        scene.files.write (Path.ofText file) text.toUTF8.toList = .ok files ∧
        (save (Scene.desk equipment) file document).run scene =
          (.ok (Path.ofText file), { scene with files }) := by
  unfold save
  dsimp only
  split
  · exact .inl ⟨_, rfl⟩
  · rename_i format hformat
    split
    · exact .inl ⟨_, rfl⟩
    · obtain ⟨text, f, htext, hcontents⟩ := exists_formatted hyaml format h
      have hopened : ((Scene.desk equipment).write (Path.ofText file) text).run scene = _ :=
        write_run (Path.ofText file) text scene
      have hmade : formatted (Scene.desk equipment).yaml format document = .ok text := htext
      rw [hmade]
      dsimp only [Except.toOption, Option.getD]
      rw [StateT.run_bind, hopened, pure_bind]
      cases hwrite : scene.files.write (Path.ofText file) text.toUTF8.toList with
      | error fault => exact .inl ⟨_, rfl⟩
      | ok files => exact .inr ⟨format, text, f, files, hformat, hcontents, hwrite, rfl⟩

/-- What a session with a selection of detectors leaves: all files as they were when it fails or no
report is wanted, and otherwise its report in the requested file. -/
inductive Leaves (yaml : Yaml.Library) (config : AuditConfig) (before : Scene) :
    Except Trouble Unit → Scene → Prop
  | failed {trouble : Trouble} {after : Scene} (h : after.files = before.files) :
    Leaves yaml config before (.error trouble) after
  | unsaved {after : Scene} (h : after.files = before.files)
      (hunwanted : config.detectors = [] ∨
        ∀ file, before.requested config = some file → file = "") :
    Leaves yaml config before (.ok ()) after
  | saved {file : String} {outcome : ScanOutcome} {after : Scene} (hselected : config.detectors ≠ [])
      (hfile : before.requested config = some file) (hnamed : file ≠ "")
      (h : Saves yaml config outcome file before after) : Leaves yaml config before (.ok ()) after

section

variable {yaml : Yaml.Library}

/-- The files are as they were unless the report was wanted and nothing failed. -/
theorem Leaves.files_eq {config : AuditConfig} {result : Except Trouble Unit}
    (h : Leaves yaml config scene result reached)
    (hunsaved : result ≠ .ok () ∨ config.detectors = [] ∨
      ∀ file, scene.requested config = some file → file = "") :
    reached.files = scene.files := by
  cases h with
  | failed h => exact h
  | unsaved h => exact h
  | saved hselected hfile hnamed =>
    rcases hunsaved with hfailed | hempty | hunnamed
    · exact absurd rfl hfailed
    · exact absurd hempty hselected
    · exact absurd (hunnamed _ hfile) hnamed

/-- When nothing failed, the report that was wanted is there. -/
theorem Leaves.exists_saves {config : AuditConfig} (h : Leaves yaml config scene (.ok ()) reached)
    (hselected : config.detectors ≠ []) {file : String}
    (hfile : scene.requested config = some file) (hnamed : file ≠ "") :
    ∃ outcome, Saves yaml config outcome file scene reached := by
  cases h with
  | unsaved h hunwanted =>
    rcases hunwanted with hempty | hunnamed
    · exact absurd hempty hselected
    · exact absurd (hunnamed file hfile) hnamed
  | saved _ hother _ h =>
    cases hother.symm.trans hfile
    exact ⟨_, h⟩

/-- What was noted before a session does not matter. -/
theorem Leaves.of_noting {config : AuditConfig} {more : List Event} {result : Except Trouble Unit}
    (h : Leaves yaml config (scene.noting more) result reached) :
    Leaves yaml config scene result reached := by
  cases h with
  | failed h => exact .failed h
  | unsaved h hunwanted => exact .unsaved h hunwanted
  | saved hselected hfile hnamed h =>
    exact .saved hselected hfile hnamed ⟨h.reported, h.written⟩

/-- What is noted after a session does not matter if it prints no items. -/
theorem Leaves.noting {config : AuditConfig} {result : Except Trouble Unit}
    (h : Leaves yaml config scene result reached) {more : List Event}
    (hmore : ∀ event ∈ more, event.item? = none) :
    Leaves yaml config scene result (reached.noting more) := by
  cases h with
  | failed h => exact .failed h
  | unsaved h hunwanted => exact .unsaved h hunwanted
  | saved hselected hfile hnamed h =>
    have hreported := h.reported
    rw [← reached.items_noting_of_none hmore] at hreported
    exact .saved hselected hfile hnamed ⟨hreported, h.written⟩

/-- What is left after a step that only notes events is left after what follows it, if it succeeds. -/
theorem leaves_of_bind {α : Type} {sort : Event → Prop} {step : SessionM (StateM Scene) α}
    {next : α → SessionM (StateM Scene) Unit} (hnotes : NotesOnly sort step) {config : AuditConfig}
    {result : Except Trouble Unit}
    (h : play (step >>= next) cluster scene = ((result, after), reached))
    (hnext : ∀ a between more, play step cluster scene = ((.ok a, between), scene.noting more) →
      (∀ event ∈ more, sort event) →
      play (next a) between (scene.noting more) = ((result, after), reached) →
      Leaves yaml config (scene.noting more) result reached) :
    Leaves yaml config scene result reached := by
  obtain ⟨more, hmore, hpassed⟩ := hnotes cluster scene
  rw [play_bind] at h
  rcases hstep : play step cluster scene with ⟨⟨trouble | a, between⟩, passed⟩
  · rw [hstep] at h hpassed
    obtain rfl : passed = scene.noting more := hpassed
    cases h
    exact .failed rfl
  · rw [hstep] at h hpassed
    obtain rfl : passed = scene.noting more := hpassed
    exact (hnext a between more hstep hmore h).of_noting

end

/-- A requested report of which the console takes the notice is saved, or nothing is written. -/
theorem leaves_of_saveOutcome (hyaml : equipment.yaml.KeepsJson) {config : AuditConfig}
    {outcome : ScanOutcome} (hreported : Reported config outcome scene.items)
    (hselected : config.detectors ≠ []) {file : String} (hfile : scene.requested config = some file)
    (hnotice : TakesNotice equipment.screen file) {result : Except Trouble Unit}
    (h : play (saveOutcome (Scene.desk equipment) file outcome) cluster scene =
      ((result, after), reached)) : Leaves equipment.yaml config scene result reached := by
  unfold saveOutcome at h
  split at h
  · rename_i hnamed
    have hnow : play (atDesk (Scene.desk equipment).now) cluster scene =
        ((.ok scene.now, cluster), scene) := rfl
    rw [play_bind, hnow] at h
    dsimp only at h
    rw [play_bind, play_orFault, hreported.ofOutcome_eq] at h
    dsimp only [Except.mapError] at h
    rw [play_bind, play_atDesk] at h
    rcases save_run hyaml file (hreported.isJson_draft scene.now) scene with
      ⟨fault, hsave⟩ | ⟨format, text, f, files, hformat, hcontents, hwrite, hsave⟩
    · rw [hsave] at h
      cases h
      exact .failed rfl
    · rw [hsave] at h
      change play (announce (Scene.desk equipment) (savedNotice (Path.ofText file))) cluster
        { scene with files } = _ at h
      rw [hnotice.play_announce] at h
      cases h
      refine .saved hselected hfile hnamed ⟨?_, format, text, _, f, hformat,
        Directory.wrote_of_write hwrite, hreported.ofOutcome_eq _, hcontents, under_total_mapFloats f _ _⟩
      have hline : ∀ event ∈ [Event.shown (.line (savedNotice (Path.ofText file)))],
          event.item? = none := List.forall_mem_singleton.2 rfl
      rw [← scene.items_noting_of_none hline] at hreported
      exact hreported
  · rename_i hunnamed
    cases h
    refine .unsaved rfl (.inr fun other hother ↦ ?_)
    rw [hfile] at hother
    cases hother
    exact not_not.1 hunnamed

theorem leaves_of_auditSelected (hyaml : equipment.yaml.KeepsJson) {config : AuditConfig}
    (hcluster : cluster.HoldsJson)
    (hsnapshot : ∀ path ∈ config.snapshotFiles,
      ∀ doc ∈ Snapshot.documentsAt equipment.yaml scene.files path, doc.isJson = true)
    (hnotice : ∀ file, scene.requested config = some file → TakesNotice equipment.screen file)
    {result : Except Trouble Unit}
    (h : play (auditSelected (Scene.desk equipment) config) cluster scene =
      ((result, after), reached)) : Leaves equipment.yaml config scene result reached := by
  unfold auditSelected at h
  split at h
  · rename_i hempty
    cases h
    exact .unsaved rfl (.inl (List.isEmpty_iff.1 hempty))
  · rename_i hselected
    rw [List.isEmpty_iff] at hselected
    apply leaves_of_bind (NotesOnly.scanConfigured equipment config) h
    intro outcome between more hscan _ h
    have hreported := reported_of_scanConfigured hcluster hsnapshot hscan
    apply leaves_of_bind (NotesOnly.reportFile equipment config) h
    intro file _ asked hfile hnone h
    have hrequested := eq_requested_of_reportFile hfile
    cases file with
    | none =>
      cases h
      refine .unsaved rfl (.inr fun file hother ↦ ?_)
      cases hrequested.trans hother
    | some file =>
      rw [← Scene.items_noting_of_none _ hnone] at hreported
      exact leaves_of_saveOutcome hyaml hreported hselected hrequested.symm
        (hnotice file hrequested.symm) h

/-! ## Choices -/

/-- The configuration with which a session at a scene scans, if detectors are chosen where they are
asked for. -/
def Scene.settled (scene : Scene) (config : AuditConfig) : Option AuditConfig :=
  if config.interactive then
    scene.detectorAnswer.given?.map fun picked ↦
      { withPicked config picked with groupByAsset := scene.groupingAnswer.given?.getD false }
  else some config

theorem NotesOnly.choose (equipment : Equipment) (config : AuditConfig) :
    NotesOnly (fun _ ↦ True) (choose (Scene.desk equipment) config) := by
  refine (NotesOnly.ask _ trivial).bind fun picked ↦ ?_
  cases picked with
  | none => exact .pure _
  | some picked => exact (NotesOnly.ask _ trivial).bind fun byAsset ↦ .pure _

/-- The configuration that is chosen is the settled one, which reads the same snapshot. -/
theorem eq_settled_of_choose {config : AuditConfig} (hinteractive : config.interactive = true)
    {chosen : Option AuditConfig}
    (h : play (choose (Scene.desk equipment) config) cluster scene =
      ((.ok chosen, after), reached)) :
    chosen = scene.settled config ∧ after = cluster ∧
      ∀ settled ∈ chosen, settled.snapshotFiles = config.snapshotFiles := by
  rw [Scene.settled, if_pos hinteractive]
  obtain ⟨answer, _, _, hpicked, h⟩ := exists_of_play_bind_ok h
  obtain ⟨hanswer, rfl, rfl⟩ := eq_of_play_ask hpicked
  change answer = scene.detectorAnswer.given? at hanswer
  rw [← hanswer]
  cases answer with
  | none =>
    cases h
    exact ⟨rfl, rfl, fun settled hsettled ↦ by cases hsettled⟩
  | some picked =>
    obtain ⟨byAsset, _, _, hgrouping, h⟩ := exists_of_play_bind_ok h
    obtain ⟨hbyAsset, rfl, rfl⟩ := eq_of_play_ask hgrouping
    change byAsset = scene.groupingAnswer.given? at hbyAsset
    cases h
    rw [hbyAsset]
    exact ⟨rfl, rfl, fun settled hsettled ↦ Option.some.inj hsettled ▸ rfl⟩

/-- The settled configuration asks for the same report file. -/
theorem requested_of_settled {config chosen : AuditConfig} (h : scene.settled config = some chosen) :
    scene.requested chosen = scene.requested config := by
  unfold Scene.settled at h
  split at h
  · obtain ⟨picked, -, rfl⟩ := Option.map_eq_some_iff.1 h
    rfl
  · cases h
    rfl

/-- What a session takes for granted: its YAML library keeps values that are JSON, the objects of the
cluster and the documents of the snapshot are such values, and the console takes the line which tells that
the report was saved. -/
structure Assumptions (equipment : Equipment) (cluster : Cluster) (scene : Scene) (config : AuditConfig) :
    Prop where
  keepsJson : equipment.yaml.KeepsJson
  objects : ∀ kind items, (kind, .objects items) ∈ cluster.replies → ∀ item ∈ items, item.isJson = true
  documents : ∀ path ∈ config.snapshotFiles,
    ∀ doc ∈ Snapshot.documentsAt equipment.yaml scene.files path, doc.isJson = true
  notice : ∀ file, scene.requested config = some file → TakesNotice equipment.screen file

/-- An audit leaves what its settled configuration leaves, and nothing without one. -/
theorem leaves_of_audit {config : AuditConfig} (hassumed : Assumptions equipment cluster scene config)
    {result : Except Trouble Unit}
    (h : play (audit (Scene.desk equipment) config) cluster scene = ((result, after), reached)) :
    (scene.settled config = none → reached.files = scene.files) ∧
      ∀ chosen, scene.settled config = some chosen →
        Leaves equipment.yaml chosen scene result reached := by
  obtain ⟨hyaml, hcluster, hsnapshot, hnotice⟩ := hassumed
  unfold audit at h
  split at h
  · rename_i hinteractive
    constructor
    · intro hnone
      have hpassed := (NotesOnly.choose equipment config).files_eq cluster scene
      rw [play_bind] at h
      rcases hchoose : play (choose _ config) cluster scene with ⟨⟨trouble | picked, between⟩, passed⟩
      · rw [hchoose] at h hpassed
        cases h
        exact hpassed
      · obtain ⟨rfl, -, -⟩ := eq_settled_of_choose hinteractive hchoose
        rw [hchoose, hnone] at h
        rw [hchoose] at hpassed
        cases h
        exact hpassed
    · intro chosen hchosen
      have hrequested := requested_of_settled hchosen
      apply leaves_of_bind (NotesOnly.choose equipment config) h
      intro picked between more hchoose _ hscanned
      obtain ⟨hsettled, rfl, hfiles⟩ := eq_settled_of_choose hinteractive hchoose
      rw [hsettled, hchosen] at hscanned hfiles
      refine leaves_of_auditSelected hyaml hcluster ?_ (fun file hfile ↦ ?_) hscanned
      · rw [hfiles chosen rfl]
        exact hsnapshot
      · exact hnotice file (hrequested.symm.trans hfile)
  · rename_i hdirect
    rw [Scene.settled, if_neg hdirect]
    constructor
    · intro hnone
      cases hnone
    · intro chosen hchosen
      cases hchosen
      exact leaves_of_auditSelected hyaml hcluster hsnapshot hnotice h

/-! ## Sessions -/

/-- A session exits well when its steps do, and closing it shows at most one line. -/
theorem close_run (equipment : Equipment) (result : Except Trouble Unit) (scene : Scene) :
    ∃ ending more, (close (Scene.desk equipment) result).run scene = (ending, scene.noting more) ∧
      (ending = .exited 0 ↔ result = .ok ()) ∧ ∀ event ∈ more, event.item? = none := by
  unfold close
  split
  · exact ⟨_, [], by rw [Scene.noting_nil]; rfl, by simp, List.forall_mem_nil _⟩
  · exact ⟨_, [.shown (.line _)], rfl, by simp, List.forall_mem_singleton.2 rfl⟩
  · split
    · exact ⟨_, [], by rw [Scene.noting_nil]; rfl, by simp, List.forall_mem_nil _⟩
    · split
      · exact ⟨_, [], by rw [Scene.noting_nil]; rfl, by simp, List.forall_mem_nil _⟩
      · exact ⟨_, [.shown (.line _)], rfl, by simp, List.forall_mem_singleton.2 rfl⟩

/-- A configured session as its steps and its closing. -/
theorem runConfigured_run (equipment : Equipment) (cluster : Cluster) (config : AuditConfig)
    (scene : Scene) : ∃ more, (runConfigured (Scene.desk equipment) cluster config).run scene =
      let played := play (audit (Scene.desk equipment) config)
        { cluster with context := config.context } (scene.noting more)
      let closed := (close (Scene.desk equipment) played.1.1).run played.2
      ((closed.1, played.1.2), closed.2) := by
  unfold runConfigured
  cases config.quiet with
  | true => exact ⟨[.shown (.journal config.verbose)], rfl⟩
  | false =>
    refine ⟨[.shown (.journal config.verbose),
      .shown (.line ("[bold red]" ++ equipment.banner ++ "[/bold red]")),
      .shown (.line "[red]Kubernetes CIS Configuration Audit[/red]\n")], ?_⟩
    have hnoted (first second third : Event) :
        ((scene.noting [first]).noting [second]).noting [third] =
          scene.noting [first, second, third] := by
      rw [Scene.noting_noting, Scene.noting_noting]
      rfl
    rw [← hnoted]
    rfl

/-- A configured session leaves what its settled configuration leaves, and nothing without one. -/
theorem leaves_of_runConfigured {config : AuditConfig}
    (hassumed : Assumptions equipment cluster scene config) :
    let ended := (runConfigured (Scene.desk equipment) cluster config).run scene
    (scene.settled config = none → ended.2.files = scene.files) ∧
      ∀ chosen, scene.settled config = some chosen →
        ∃ result, (ended.1.1 = .exited 0 ↔ result = .ok ()) ∧
          Leaves equipment.yaml chosen scene result ended.2 := by
  intro ended
  obtain ⟨more, hrun⟩ := runConfigured_run equipment cluster config scene
  rcases hplayed : play (audit (Scene.desk equipment) config)
    { cluster with context := config.context } (scene.noting more) with ⟨⟨result, after⟩, reached⟩
  obtain ⟨ending, last, hclose, hending, hlast⟩ := close_run equipment result reached
  have hended : ended = ((ending, after), reached.noting last) := by
    rw [hplayed] at hrun
    dsimp only at hrun
    rw [hclose] at hrun
    exact hrun
  have hstart : Assumptions equipment { cluster with context := config.context }
      (scene.noting more) config :=
    ⟨hassumed.keepsJson, hassumed.objects, hassumed.documents, hassumed.notice⟩
  obtain ⟨hnone, hchosen⟩ := leaves_of_audit hstart hplayed
  rw [hended]
  refine ⟨hnone, fun chosen hsettled ↦ ⟨result, hending, ?_⟩⟩
  exact (hchosen chosen hsettled).of_noting.noting hlast

end Session

/-- A library that knows of YAML what is JSON, one document a text. -/
def Yaml.ofJson : Yaml.Library where
  load cs :=
    match Json.read (String.ofList cs) with
    | some document => ([document], none)
    | none => ([], some .malformed)
  dump := Json.write .oneLine

theorem Yaml.keepsJson_ofJson : Yaml.ofJson.KeepsJson := by
  intro v h
  obtain ⟨text, hwrite, hread⟩ := Json.exists_read_write h .oneLine
  refine ⟨text, Json.reread, hwrite, ?_⟩
  unfold ofJson
  dsimp only
  rw [String.ofList_toList, hread]

namespace Session

open Manifest

/-- A cluster whose only policy lets containers be privileged. -/
def permissive : Cluster where
  replies := [(.podSecurityPolicy, .objects [.map [
    (.text "metadata", .map [(.text "name", .text "open")]),
    (.text "spec", .map [(.text "privileged", .bool true)])]])]

/-- An equipment without a picture, whose console refuses nothing. -/
def Equipment.ofJson : Equipment where
  banner := ""
  screen _ := none
  yaml := Yaml.ofJson

/-- A desk with a file of notes. -/
def withNotes : Scene where
  files := .ofFiles [("notes.txt", [0x68, 0x69])]
  now := ⟨⟨2024, 1, 2⟩, 3, 4, 5, 0, none⟩

end Session

end ClusterAudit
