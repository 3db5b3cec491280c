import ClusterAudit.Proofs.Detector.Pairing
import ClusterAudit.Proofs.Manifest.Schema

/-!
# Taints that are not tolerated

When a toleration matches a taint is stated here for manifests whose fields are texts or absent.  A pair
of a node and a pod is reported for exactly the taints of the node that no toleration of the pod matches,
in the order of the taints.  So further tolerations can only shorten the report, neither the order nor the
number of tolerations matters, and one toleration without a key silences the report.
-/

namespace ClusterAudit.Scheduling

open Manifest Shape Traversal

/-! ## Matching manifests -/

/-- A toleration has no key, or an empty one. -/
def Keyless (toleration : Value) : Prop :=
  toleration.text? "key" = none ∨ toleration.text? "key" = some ""

/-- When a toleration matches a taint.  Only an operator that is absent or empty, or asks for equality or
for the key alone, is of use to a toleration with a key. -/
def Tolerates (toleration taint : Value) : Prop :=
  Keyless toleration ∨
    toleration.text? "key" = taint.text? "key" ∧
    (toleration.text? "effect" = none ∨ toleration.text? "effect" = some "" ∨
      toleration.text? "effect" = taint.text? "effect") ∧
    (toleration.text? "operator" = some "Exists" ∨
      (toleration.text? "operator" = some "Equal" ∨ toleration.text? "operator" = none ∨
        toleration.text? "operator" = some "") ∧
      ∃ value, toleration.text? "value" = some value ∧ taint.text? "value" = some value)

instance (toleration : Value) : Decidable (Keyless toleration) :=
  inferInstanceAs (Decidable (_ ∨ _))

instance (toleration taint : Value) : Decidable (Tolerates toleration taint) :=
  have : Decidable (∃ value, toleration.text? "value" = some value ∧
      taint.text? "value" = some value) :=
    decidable_of_iff (∃ value ∈ toleration.text? "value", taint.text? "value" = some value) <| by
      simp only [Option.mem_def]
  inferInstanceAs (Decidable (_ ∨ _ ∧ _ ∧ _))

/-- The taints of a list that no toleration of another list matches. -/
def untolerated (taints tolerations : List Value) : List Value :=
  taints.filter fun taint ↦ ∀ toleration ∈ tolerations, ¬ Tolerates toleration taint

theorem untolerated_sublist (taints : List Value) {tolerations more : List Value}
    (h : tolerations ⊆ more) :
    (untolerated taints more).Sublist (untolerated taints tolerations) := by
  apply List.monotone_filter_right
  intro taint htaint
  rw [decide_eq_true_iff] at htaint ⊢
  exact fun toleration htoleration ↦ htaint toleration (h htoleration)

theorem untolerated_congr (taints : List Value) {tolerations others : List Value}
    (h : ∀ toleration, toleration ∈ tolerations ↔ toleration ∈ others) :
    untolerated taints tolerations = untolerated taints others := by
  unfold untolerated
  simp only [h]

theorem untolerated_of_keyless (taints : List Value) {tolerations : List Value}
    (h : ∃ toleration ∈ tolerations, Keyless toleration) : untolerated taints tolerations = [] := by
  obtain ⟨toleration, htoleration, hkeyless⟩ := h
  refine List.filter_eq_nil_iff.2 fun taint _ ↦ ?_
  rw [decide_eq_true_iff]
  exact fun hnone ↦ hnone toleration htoleration (.inl hkeyless)

/-! ## Taints and tolerations as they are read -/

/-- The taint that a manifest gives whose fields are texts. -/
def writtenTaint (doc : Value) : Taint where
  key := .text ((doc.text? "key").getD "")
  value := (doc.text? "value").elim .null .text
  effect := .text ((doc.text? "effect").getD "")

/-- The toleration that a manifest gives whose fields are texts. -/
def writtenToleration (doc : Value) : Toleration where
  key := (doc.text? "key").elim .null .text
  operator := .text (((doc.text? "operator").filter (· ≠ "")).getD "Equal")
  value := (doc.text? "value").elim .null .text
  effect := (doc.text? "effect").elim .null .text

theorem elim_text (found : Option String) (absent : String) :
    found.elim (.text absent) Value.text = .text (found.getD absent) := by
  cases found with
  | none => rfl
  | some s => rfl

theorem Taint.ofManifest_eq {doc : Value} (h : record taintFields doc = true) :
    Taint.ofManifest doc = .ok (writtenTaint doc) := by
  unfold Taint.ofManifest Value.field
  rw [Value.fieldD_eq_text? h (by simp [taintFields]), Value.fieldD_eq_text? h (by simp [taintFields]),
    Value.fieldD_eq_text? h (by simp [taintFields]), elim_text, elim_text]
  rfl

theorem Toleration.ofManifest_eq {doc : Value} (h : record tolerationFields doc = true) :
    Toleration.ofManifest doc = .ok (writtenToleration doc) := by
  unfold Toleration.ofManifest Value.field
  rw [Value.fieldD_eq_text? h (by simp [tolerationFields]),
    Value.fieldD_eq_text? h (by simp [tolerationFields]),
    Value.fieldD_eq_text? h (by simp [tolerationFields]),
    Value.fieldD_eq_text? h (by simp [tolerationFields])]
  change Except.ok _ = Except.ok _
  congr 1
  unfold writtenToleration
  congr 1
  cases doc.text? "operator" with
  | none => rfl
  | some operator =>
    by_cases hempty : operator = ""
    · simp [hempty, Value.isGiven, Option.filter]
    · simp [hempty, Value.isGiven, Option.filter]

/-! ## The check agrees -/

theorem isGiven_elim_text_iff {found : Option String} :
    ((found.elim .null Value.text).isGiven = false) ↔ found = none ∨ found = some "" := by
  cases found with
  | none => simp [Value.isGiven]
  | some s => simp [Value.isGiven]

/-- A text that is not empty is the same as a field exactly when this field is the text. -/
theorem same_getD_text {s : String} (hs : s ≠ "") (found : Option String) :
    (Value.text s).same (.text (found.getD "")) = decide (some s = found) := by
  cases found with
  | none => simp [hs]
  | some t => simp

theorem same_operator_exists {found : Option String} :
    (Value.text ((found.filter (· ≠ "")).getD "Equal")).same (.text "Exists") =
      decide (found = some "Exists") := by
  cases found with
  | none => simp
  | some s =>
    by_cases hs : s = ""
    · simp [hs, Option.filter]
    · simp [hs, Option.filter]

theorem same_operator_equal {found : Option String} :
    (Value.text ((found.filter (· ≠ "")).getD "Equal")).same (.text "Equal") =
      decide (found = some "Equal" ∨ found = none ∨ found = some "") := by
  cases found with
  | none => simp
  | some s =>
    by_cases hs : s = ""
    · simp [hs, Option.filter]
    · simp [hs, Option.filter]

theorem same_value_iff {given found : Option String} :
    (decide (given.elim .null Value.text ≠ .null) &&
        (given.elim .null Value.text).same (found.elim .null .text)) = true ↔
      ∃ value, given = some value ∧ found = some value := by
  cases given with
  | none => simp
  | some s =>
    cases found with
    | none => simp [Value.same, Scalar.same, Scalar.asInt?]
    | some t => simp [eq_comm]

/-- An effect refuses a taint when it is neither left open nor that of the taint. -/
theorem refused_effect_eq {given found : Option String} :
    ((given.elim .null Value.text).isGiven &&
        !(given.elim .null Value.text).same (.text (found.getD ""))) =
      !decide (given = none ∨ given = some "" ∨ given = found) := by
  cases given with
  | none => simp [Value.isGiven]
  | some s =>
    by_cases hs : s = ""
    · simp [hs, Value.isGiven]
    · have hsame := same_getD_text hs found
      simp only [Option.elim_some, hsame]
      simp [hs, Value.isGiven]

/-- The check of a toleration against a taint finds out whether their manifests match. -/
theorem toleratesTaint_written (toleration taint : Value) :
    toleratesTaint (writtenToleration toleration) (writtenTaint taint) =
      decide (Tolerates toleration taint) := by
  by_cases hkeyless : Keyless toleration
  · have hnone : (writtenToleration toleration).key.isGiven = false :=
      isGiven_elim_text_iff.2 hkeyless
    rw [toleratesTaint, hnone, decide_eq_true (show Tolerates toleration taint from .inl hkeyless)]
    rfl
  · have hgiven : (writtenToleration toleration).key.isGiven = true := by
      rw [← Bool.not_eq_false]
      exact mt isGiven_elim_text_iff.1 hkeyless
    have hkey : (writtenToleration toleration).key.same (writtenTaint taint).key =
        decide (toleration.text? "key" = taint.text? "key") := by
      obtain ⟨hsome, hne⟩ := not_or.1 hkeyless
      obtain ⟨key, hkey⟩ := Option.ne_none_iff_exists'.1 hsome
      have hnonempty : key ≠ "" := fun hempty ↦ hne (hempty ▸ hkey)
      unfold writtenToleration writtenTaint
      rw [hkey]
      exact same_getD_text hnonempty _
    have hvalue := @same_value_iff (toleration.text? "value") (taint.text? "value")
    rw [Bool.eq_iff_iff, decide_eq_true_iff, Tolerates, or_iff_right hkeyless, ← hvalue]
    unfold toleratesTaint
    rw [hgiven, hkey]
    unfold writtenToleration writtenTaint
    dsimp only
    rw [refused_effect_eq, same_operator_exists, same_operator_equal]
    grind

theorem untoleratedTaints_written (taints tolerations : List Value) :
    untoleratedTaints (some (taints.map writtenTaint)) (some (tolerations.map writtenToleration)) =
      (untolerated taints tolerations).map fun taint ↦ unmetTaint (writtenTaint taint) := by
  have hcheck (taint : Value) :
      (!(tolerations.map writtenToleration).any fun toleration ↦
        toleratesTaint toleration (writtenTaint taint)) =
      decide (∀ toleration ∈ tolerations, ¬ Tolerates toleration taint) := by
    rw [Bool.eq_iff_iff, decide_eq_true_iff, Bool.not_eq_true', List.any_eq_false, List.forall_mem_map]
    simp only [toleratesTaint_written, decide_eq_true_iff]
  unfold untoleratedTaints untolerated
  dsimp only
  rw [List.filter_map, List.map_map]
  congr 1
  apply List.filter_congr
  intro taint _
  exact hcheck taint

/-! ## Reports -/

/-- The evidence of a taint: its key, its value and its effect. -/
def taintEvidence (taint : Value) : List Detail :=
  [.ofText "Key" ((taint.text? "key").getD ""), .ofText "Value" ((taint.text? "value").getD "None"),
    .ofText "Effect" ((taint.text? "effect").getD "")]

theorem requirementEvidence_unmetTaint (taint : Value) :
    Detector.requirementEvidence (unmetTaint (writtenTaint taint)) = .ok (taintEvidence taint) := by
  have hvalue : (writtenTaint taint).value.display = .ok ((taint.text? "value").getD "None") := by
    unfold writtenTaint
    cases taint.text? "value" with
    | none => exact Value.IsName.null.display
    | some value => exact Value.display_text value
  have heffect : (writtenTaint taint).effect.display = .ok ((taint.text? "effect").getD "") :=
    Value.display_text _
  simp only [Detector.requirementEvidence, unmetTaint, hvalue, heffect]
  rfl

/-- A node manifest that can be read and lists taints, the fields of which are texts or absent. -/
structure ListsTaints (doc : Value) (taints : List Value) : Prop where
  readable : (Node.ofManifest doc).isOk = true
  listed : doc.at? ["spec", "taints"] = some (.list taints)
  fields : ∀ taint ∈ taints, record taintFields taint = true

/-- A pod manifest that can be read and lists tolerations, the fields of which are texts or absent. -/
structure ListsTolerations (doc : Value) (tolerations : List Value) : Prop where
  readable : (Pod.ofManifest doc).isOk = true
  listed : doc.at? ["spec", "tolerations"] = some (.list tolerations)
  fields : ∀ toleration ∈ tolerations, record tolerationFields toleration = true

theorem nodeTaint_againstPair {nodeDoc podDoc : Value} {taints tolerations : List Value}
    (hnode : ListsTaints nodeDoc taints) (hpod : ListsTolerations podDoc tolerations) :
    Detector.nodeTaint.againstPair nodeDoc podDoc =
      .ok ((untolerated taints tolerations).flatMap taintEvidence) := by
  obtain ⟨node, hreadNode⟩ := exists_of_isOk hnode.readable
  obtain ⟨pod, hreadPod⟩ := exists_of_isOk hpod.readable
  have htaints : node.taints = taints.map writtenTaint := by
    have hread := Node.mapM_taints hreadNode hnode.listed
    rw [mapM_eq_ok_map fun taint htaint ↦ Taint.ofManifest_eq (hnode.fields taint htaint)] at hread
    exact (Except.ok.inj hread).symm
  obtain ⟨read, hread, htolerations⟩ := Pod.exists_tolerations hreadPod hpod.listed
  rw [mapM_eq_ok_map fun toleration htoleration ↦
    Toleration.ofManifest_eq (hpod.fields toleration htoleration)] at htolerations
  obtain rfl := Except.ok.inj htolerations
  have hunmet : Except.ok (ε := Fault) (untoleratedTaints (some node.taints) pod.tolerations) =
      .ok ((untolerated taints tolerations).map fun taint ↦ unmetTaint (writtenTaint taint)) := by
    rw [htaints, hread, untoleratedTaints_written]
  exact Detector.isolation_againstPair hreadNode hreadPod hunmet requirementEvidence_unmetTaint

/-- A pair is reported for exactly the taints that no toleration matches, in their order.  With more
tolerations there is a report of fewer taints, with the same tolerations in another order or number there
is the same report, and with a toleration without key there is none. -/
theorem taints_reported_unless_tolerated (nodeDoc podDoc : Value) (taints tolerations : List Value)
    (hnode : ListsTaints nodeDoc taints) (hpod : ListsTolerations podDoc tolerations) :
    Detector.nodeTaint.againstPair nodeDoc podDoc =
      .ok ((untolerated taints tolerations).flatMap taintEvidence) ∧
    (∀ otherDoc more, ListsTolerations otherDoc more → tolerations ⊆ more →
      ∃ fewer : List Value, fewer.Sublist (untolerated taints tolerations) ∧
        Detector.nodeTaint.againstPair nodeDoc otherDoc = .ok (fewer.flatMap taintEvidence)) ∧
    (∀ otherDoc others, ListsTolerations otherDoc others →
      (∀ toleration, toleration ∈ tolerations ↔ toleration ∈ others) →
      Detector.nodeTaint.againstPair nodeDoc otherDoc = Detector.nodeTaint.againstPair nodeDoc podDoc) ∧
    ((∃ toleration ∈ tolerations, Keyless toleration) →
      Detector.nodeTaint.againstPair nodeDoc podDoc = .ok []) := by
  refine ⟨nodeTaint_againstPair hnode hpod, fun otherDoc more hother hsubset ↦ ?_,
    fun otherDoc others hother hsame ↦ ?_, fun hkeyless ↦ ?_⟩
  · exact ⟨_, untolerated_sublist taints hsubset, nodeTaint_againstPair hnode hother⟩
  · rw [nodeTaint_againstPair hnode hother, nodeTaint_againstPair hnode hpod,
      untolerated_congr taints hsame]
  · rw [nodeTaint_againstPair hnode hpod, untolerated_of_keyless taints hkeyless]
    rfl

/-! ### Taints of a machine -/

/-- A manifest with a list at a field of its specification. -/
def specified (field : String) (docs : List Value) : Value :=
  .ofFields [("spec", .ofFields [(field, .list docs)])]

/-- A map from texts to texts. -/
def texts (fields : List (String × String)) : Value :=
  .ofFields (fields.map fun field ↦ (field.1, .text field.2))

/-- An operator that is empty asks for an equal value, another effect keeps a toleration from matching, and
a toleration with an operator alone matches everything. -/
theorem taints_reported_unless_tolerated_gpu :
    let taints := [texts [("key", "dedicated"), ("value", "gpu"), ("effect", "NoSchedule")],
      texts [("key", "spot"), ("effect", "NoExecute")]]
    let tolerations := [texts [("key", "dedicated"), ("operator", ""), ("value", "gpu")],
      texts [("key", "spot"), ("operator", "Exists"), ("effect", "NoSchedule")]]
    let keyless := [texts [("operator", "Lost")]]
    ListsTaints (specified "taints" taints) taints ∧
    ListsTolerations (specified "tolerations" tolerations) tolerations ∧
    ListsTolerations (specified "tolerations" keyless) keyless ∧
    Detector.nodeTaint.againstPair (specified "taints" taints) (specified "tolerations" tolerations) =
      .ok [⟨"Key", .text "spot"⟩, ⟨"Value", .text "None"⟩, ⟨"Effect", .text "NoExecute"⟩] ∧
    Detector.nodeTaint.againstPair (specified "taints" taints) (specified "tolerations" keyless) =
      .ok [] := by
  intro taints tolerations keyless
  have hnode : ListsTaints (specified "taints" taints) taints :=
    ⟨by decide +kernel, rfl, by decide +kernel⟩
  have hpod : ListsTolerations (specified "tolerations" tolerations) tolerations :=
    ⟨by decide +kernel, rfl, by decide +kernel⟩
  have hall : ListsTolerations (specified "tolerations" keyless) keyless :=
    ⟨by decide +kernel, rfl, by decide +kernel⟩
  obtain ⟨hreport, -⟩ := taints_reported_unless_tolerated _ _ _ _ hnode hpod
  obtain ⟨-, -, -, hsilent⟩ := taints_reported_unless_tolerated _ _ _ _ hnode hall
  exact ⟨hnode, hpod, hall, hreport.trans (by decide +kernel), hsilent (by decide +kernel)⟩

end ClusterAudit.Scheduling
