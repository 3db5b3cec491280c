import ClusterAudit.Proofs.Session.Playing
import ClusterAudit.Yaml.Printer

/-!
# Cancelled dialogues

The dialogue asks for the detectors and then for the grouping.  When the first question is cancelled
nothing is chosen, and the audit ends before it opens a source.  When the second one is cancelled the
picked detectors have already been taken over: the dialogue goes on as if the findings were to be
grouped by detector, and the picked detectors are scanned with.
-/

namespace ClusterAudit.Session

variable {cluster : Cluster} {scene : Scene}

/-! ## The two questions -/

def Scene.askedDetectors (scene : Scene) (config : AuditConfig) : Scene :=
  scene.noting [.asked (.detectors (choices config))]

def Scene.askedBoth (scene : Scene) (config : AuditConfig) : Scene :=
  (scene.askedDetectors config).noting [.asked (.grouping config.groupByAsset)]

theorem play_choose_of_cancelled (equipment : Equipment) (config : AuditConfig) (cluster : Cluster)
    (h : scene.detectorAnswer = .cancelled) :
    play (choose (Scene.desk equipment) config) cluster scene =
      ((.ok none, cluster), scene.askedDetectors config) := by
  have hanswer : (scene.askedDetectors config).detectorAnswer = .cancelled := h
  unfold choose
  rw [play_bind]
  dsimp only [Scene.desk]
  rw [play_ask, ← Scene.askedDetectors, hanswer]
  rfl

/-- Once detectors are picked, an answer to the second question only settles the grouping. -/
theorem play_choose_of_given (equipment : Equipment) (config : AuditConfig) (cluster : Cluster)
    {picked : List (Catalog × Int)} (h : scene.detectorAnswer = .given picked) :
    play (choose (Scene.desk equipment) config) cluster scene =
      ((scene.groupingAnswer.settled.map fun byAsset ↦
          some { withPicked config picked with groupByAsset := byAsset.getD false }, cluster),
        scene.askedBoth config) := by
  have hanswer : (scene.askedDetectors config).detectorAnswer = .given picked := h
  unfold choose
  rw [play_bind]
  dsimp only [Scene.desk]
  rw [play_ask, ← Scene.askedDetectors, hanswer]
  dsimp only [Answer.settled]
  have hgrouping : (scene.askedBoth config).groupingAnswer = scene.groupingAnswer := rfl
  rw [play_bind, play_ask, ← Scene.askedBoth, hgrouping]
  cases scene.groupingAnswer with
  | given byAsset => rfl
  | cancelled => rfl
  | interrupted => rfl

/-! ## The audit after the dialogue -/

/-- An audit with a dialogue goes on with what is chosen, and ends where nothing is. -/
theorem play_audit_of_interactive (equipment : Equipment) {config : AuditConfig} (cluster : Cluster)
    (scene : Scene) (hinteractive : config.interactive = true) :
    play (audit (Scene.desk equipment) config) cluster scene =
      match play (choose (Scene.desk equipment) config) cluster scene with
      | ((.ok none, after), reached) =>
        ((.ok (), after), reached.noting [.shown (.line "[yellow]Cancelled[/yellow]")])
      | ((.ok (some chosen), after), reached) =>
        play (auditSelected (Scene.desk equipment) chosen) after reached
      | ((.error trouble, after), reached) => ((.error trouble, after), reached) := by
  unfold audit
  rw [if_pos hinteractive, play_bind]
  rcases play (choose (Scene.desk equipment) config) cluster scene with
    ⟨⟨_ | _ | chosen, after⟩, reached⟩
  · rfl
  · rfl
  · rfl

/-- When the first question is cancelled, nothing is chosen: neither the configuration nor the cluster
nor anything at the desk is touched, and the audit ends.  When the first question is answered and the
second one is cancelled, nothing is taken back: the picked detectors replace the selection, the
findings are grouped by detector whatever the configuration said, and the audit goes on with that. -/
theorem cancelled_dialogue_scans_nothing_unless_picked (equipment : Equipment) (config : AuditConfig)
    (cluster : Cluster) (scene : Scene)
    (hcancelled : scene.detectorAnswer = .cancelled ∨
      (∃ picked, scene.detectorAnswer = .given picked) ∧ scene.groupingAnswer = .cancelled) :
    ((play (choose (Scene.desk equipment) config) cluster scene).1.1 = .ok none ↔
      scene.detectorAnswer = .cancelled) ∧
    (scene.detectorAnswer = .cancelled →
      play (choose (Scene.desk equipment) config) cluster scene =
          ((.ok none, cluster), scene.askedDetectors config) ∧
        (config.interactive = true →
          play (audit (Scene.desk equipment) config) cluster scene =
            ((.ok (), cluster), (scene.askedDetectors config).noting
              [.shown (.line "[yellow]Cancelled[/yellow]")]))) ∧
    ∀ picked, scene.detectorAnswer = .given picked →
      play (choose (Scene.desk equipment) config) cluster scene =
          ((.ok (some { withPicked config picked with groupByAsset := false }), cluster),
            scene.askedBoth config) ∧
        (config.interactive = true →
          play (audit (Scene.desk equipment) config) cluster scene =
            play (auditSelected (Scene.desk equipment)
              { withPicked config picked with groupByAsset := false }) cluster
              (scene.askedBoth config)) := by
  have hfirst : scene.detectorAnswer = .cancelled →
      play (choose (Scene.desk equipment) config) cluster scene =
        ((.ok none, cluster), scene.askedDetectors config) :=
    play_choose_of_cancelled equipment config cluster
  have hsecond : ∀ picked, scene.detectorAnswer = .given picked →
      play (choose (Scene.desk equipment) config) cluster scene =
        ((.ok (some { withPicked config picked with groupByAsset := false }), cluster),
          scene.askedBoth config) := by
    intro picked hpicked
    have hgrouping : scene.groupingAnswer = .cancelled := by
      rcases hcancelled with hdetectors | ⟨-, hgrouping⟩
      · rw [hpicked] at hdetectors
        cases hdetectors
      · exact hgrouping
    rw [play_choose_of_given equipment config cluster hpicked, hgrouping]
    rfl
  refine ⟨⟨fun hnone ↦ ?_, fun h ↦ by rw [hfirst h]⟩, fun h ↦ ⟨hfirst h, fun hinteractive ↦ ?_⟩,
    fun picked h ↦ ⟨hsecond picked h, fun hinteractive ↦ ?_⟩⟩
  · rcases hcancelled with h | ⟨⟨picked, h⟩, -⟩
    · exact h
    · rw [hsecond picked h] at hnone
      cases hnone
  · rw [play_audit_of_interactive equipment cluster scene hinteractive, hfirst h]
  · rw [play_audit_of_interactive equipment cluster scene hinteractive, hsecond picked h]

/-- An equipment without a picture, whose console refuses nothing. -/
def Equipment.bare : Equipment where
  banner := ""
  screen _ := none
  yaml := Yaml.own

/-- A scene where the first policy detector is picked and the grouping is cancelled. -/
def halfCancelled : Scene where
  now := default
  detectorAnswer := .given [(.podSecurity, 1)]

/-- An audit of all detectors, grouped by asset, with a dialogue. -/
def dialogueByAsset : AuditConfig where
  groupByAsset := true
  interactive := true

theorem cancelled_dialogue_goes_on_with_picked :
    (halfCancelled.detectorAnswer = .cancelled ∨
      (∃ picked, halfCancelled.detectorAnswer = .given picked) ∧
        halfCancelled.groupingAnswer = .cancelled) ∧
    (play (choose (Scene.desk .bare) dialogueByAsset) {} halfCancelled).1.1 =
      .ok (some
        { dialogueByAsset with
          rbac := some []
          isolation := some []
          podSecurity := some [1]
          groupByAsset := false }) := by
  have hcancelled : halfCancelled.detectorAnswer = .cancelled ∨
      (∃ picked, halfCancelled.detectorAnswer = .given picked) ∧
        halfCancelled.groupingAnswer = .cancelled :=
    .inr ⟨⟨_, rfl⟩, rfl⟩
  obtain ⟨-, -, hgiven⟩ :=
    cancelled_dialogue_scans_nothing_unless_picked .bare dialogueByAsset {} halfCancelled hcancelled
  refine ⟨hcancelled, ?_⟩
  rw [(hgiven _ rfl).1]
  rfl

/-- Cancelling the second question neither keeps the configuration nor ends the audit: the cluster is
connected to and asked for its policies. -/
theorem cancelled_grouping_scans :
    halfCancelled.groupingAnswer = .cancelled ∧
    (play (choose (Scene.desk .bare) dialogueByAsset) {} halfCancelled).1.1 ≠ .ok none ∧
    (play (choose (Scene.desk .bare) dialogueByAsset) {} halfCancelled).1.1 ≠
      .ok (some dialogueByAsset) ∧
    (play (audit (Scene.desk .bare) dialogueByAsset) {} halfCancelled).1.2.calls =
      [.userConfiguration none, .listPolicies] := by
  have hchosen : (play (choose (Scene.desk .bare) dialogueByAsset) {} halfCancelled).1.1 =
      .ok (some (withPicked { dialogueByAsset with groupByAsset := false } [(.podSecurity, 1)])) :=
    rfl
  rw [hchosen]
  refine ⟨rfl, nofun, fun h ↦ ?_, by decide +kernel⟩
  cases h

end ClusterAudit.Session
