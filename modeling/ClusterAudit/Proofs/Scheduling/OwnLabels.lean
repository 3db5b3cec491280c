import ClusterAudit.Proofs.Detector.Pairing

/-!
# Labels that are asked for by the node itself

The selector of a pod and an affinity that lists values may copy labels of a node, as they stand in its
manifest.  What is copied is turned into text when the pod is read, while the labels of the node keep
their values.  So the node meets what is copied from a label exactly when the value of the label is a
text, and every other copy is reported.
-/

namespace ClusterAudit

open Manifest Shape Traversal

namespace Manifest

/-- Putting a value under a key that is not there adds an entry at the end. -/
theorem putEntry_of_forall_ne {entries : List Entry} {key : Scalar}
    (h : ∀ entry ∈ entries, entry.1.same key = false) (value : Value) :
    putEntry entries key value = entries ++ [(key, value)] := by
  induction entries with
  | nil => rfl
  | cons entry rest ih =>
    obtain ⟨hfirst, hrest⟩ := List.forall_mem_cons.1 h
    obtain ⟨other, first⟩ := entry
    rw [putEntry, if_neg (by simpa using hfirst), ih hrest, List.cons_append]

/-- Entries under different texts are put as they are. -/
theorem putAll_texts {texts : List (String × Value)} (h : (texts.map (·.1)).Nodup)
    (entries : List Entry)
    (hentries : ∀ entry ∈ entries, ∀ text ∈ texts, entry.1.same (.text text.1) = false) :
    putAll entries (texts.map fun text ↦ (.text text.1, text.2)) =
      entries ++ texts.map fun text ↦ (.text text.1, text.2) := by
  induction texts generalizing entries with
  | nil => exact (List.append_nil entries).symm
  | cons first rest ih =>
    obtain ⟨hfirst, hrest⟩ := List.nodup_cons.1 h
    have hput := putEntry_of_forall_ne
      (fun entry hentry ↦ hentries entry hentry first List.mem_cons_self) first.2
    have hlater : ∀ entry ∈ entries ++ [(Scalar.text first.1, first.2)], ∀ text ∈ rest,
        entry.1.same (.text text.1) = false := by
      intro entry hentry text htext
      rcases List.mem_append.1 hentry with hmem | hmem
      · exact hentries entry hmem text (List.mem_cons_of_mem first htext)
      · rw [List.mem_singleton.1 hmem, Scalar.same_text]
        exact decide_eq_false fun hsame ↦ hfirst (List.mem_map.2 ⟨text, htext, hsame.symm⟩)
    have hstep : putAll entries ((first :: rest).map fun text ↦ (.text text.1, text.2)) =
        putAll (putEntry entries (.text first.1) first.2)
          (rest.map fun text ↦ (.text text.1, text.2)) := rfl
    rw [hstep, hput, ih hrest _ hlater, List.append_assoc]
    rfl

end Manifest

namespace Scheduling

/-! ## Selectors -/

/-- A value is the same as its text exactly when it is a text. -/
theorem same_spelling (value : Value) : value.same (.text value.spelling) = text value := by
  rw [(Value.IsName.text value.spelling).same_eq_decide]
  cases htext : text value with
  | true =>
    obtain ⟨s, rfl⟩ := exists_of_text htext
    simp
  | false =>
    refine decide_eq_false fun hsame ↦ ?_
    rw [hsame] at htext
    cases htext

/-- Of a selector that is copied from labels, the entries that are no texts are not met. -/
theorem unmetSelectors_copies {labels : List Entry} {copies : List (String × Value)}
    (h : ∀ copy ∈ copies, valueAt? labels (.text copy.1) = some copy.2) :
    unmetSelectors labels (copies.map fun copy ↦ (.text copy.1, .text copy.2.spelling)) =
      (copies.filter fun copy ↦ !text copy.2).map fun copy ↦
        ⟨.text copy.1, .text copy.2.spelling, none⟩ := by
  unfold unmetSelectors
  rw [List.filter_map, List.map_map]
  congr 1
  apply List.filter_congr
  intro copy hcopy
  simp only [Function.comp_apply, h copy hcopy, Option.getD_some, same_spelling]

/-! ## Expressions -/

/-- The label for which an expression asks. -/
def labelOf (labels : List Entry) (expression : Value) : Option Value :=
  (expression.text? "key").bind fun name ↦ valueAt? labels (.text name)

def valuesOf (expression : Value) : List Value :=
  match expression.at? ["values"] with
  | some (.list values) => values
  | _ => []

/-- An expression asks that a label has one of some values, and the value of the label is listed. -/
structure ListsOwn (labels : List Entry) (expression : Value) : Prop where
  operator : expression.text? "operator" = some "In"
  listed : ∃ value ∈ labelOf labels expression, value ∈ valuesOf expression

/-- The expression that a manifest gives which lists values for a label. -/
def writtenExpression (doc : Value) : MatchExpression where
  key := .text ((doc.text? "key").getD "")
  operator := .text "In"
  values := (valuesOf doc).map fun value ↦ .text value.spelling

namespace ListsOwn

variable {labels : List Entry} {doc : Value} (h : ListsOwn labels doc)

include h

theorem eq_of_ofManifest {expression : MatchExpression}
    (hread : MatchExpression.ofManifest doc = .ok expression) : expression = writtenExpression doc := by
  obtain ⟨value, hvalue, hmem⟩ := h.listed
  obtain ⟨name, hname, -⟩ := Option.bind_eq_some_iff.1 hvalue
  obtain ⟨values, hvalues⟩ : ∃ values, doc.at? ["values"] = some (.list values) := by
    unfold valuesOf at hmem
    split at hmem
    · rename_i values hvalues
      exact ⟨values, hvalues⟩
    · cases hmem
  obtain ⟨key, hkey, hkeyEnd⟩ := Value.fieldD_of_at? (Value.text?_eq_some_iff.1 hname) (.text "")
  obtain ⟨operator, hoperator, hoperatorEnd⟩ :=
    Value.fieldD_of_at? (Value.text?_eq_some_iff.1 h.operator) (.text "")
  obtain rfl : key = .text name := Option.some.inj hkeyEnd
  obtain rfl : operator = .text "In" := Option.some.inj hoperatorEnd
  unfold MatchExpression.ofManifest Value.fieldTexts at hread
  rw [hkey, hoperator, Value.fieldElements_of_at? hvalues] at hread
  obtain ⟨texts, htexts, hread⟩ := bind_eq_ok (x := values.mapM Value.display) hread
  cases hread
  rw [eq_map_of_mapM htexts fun _ _ _ htext ↦ Value.eq_of_written htext, writtenExpression, valuesOf,
    hname, hvalues, List.map_map]
  rfl

/-- Listing the value of a label is of use when this value is a text. -/
theorem expressionMatches_eq :
    expressionMatches labels (writtenExpression doc) = .ok ((labelOf labels doc).any text) := by
  obtain ⟨value, hvalue, hmem⟩ := h.listed
  obtain ⟨name, hname, hlabel⟩ := Option.bind_eq_some_iff.1 hvalue
  have hlookup : lookup? labels (writtenExpression doc).key = .ok (some value) := by
    rw [writtenExpression, hname]
    exact congrArg Except.ok hlabel
  have hany : ((writtenExpression doc).values.any value.same) = text value := by
    rw [Bool.eq_iff_iff, List.any_eq_true]
    constructor
    · rintro ⟨other, hother, hsame⟩
      obtain ⟨listed, -, rfl⟩ := List.mem_map.1 hother
      rw [(Value.IsName.text listed.spelling).same_eq_decide, decide_eq_true_iff] at hsame
      rw [hsame]
      rfl
    · intro htext
      exact ⟨_, List.mem_map_of_mem hmem, (same_spelling value).trans htext⟩
  rw [expressionMatches, hlookup, Option.mem_def.1 hvalue]
  exact congrArg Except.ok hany

end ListsOwn

/-- The expressions that do not hold, when it is known of each whether it does. -/
theorem unmatchedExpressions_map {α : Type} {labels : List Entry} {expression : α → MatchExpression}
    {holds : α → Bool} {xs : List α}
    (h : ∀ x ∈ xs, expressionMatches labels (expression x) = .ok (holds x)) :
    unmatchedExpressions labels (xs.map expression) =
      .ok ((xs.filter fun x ↦ !holds x).map expression) := by
  induction xs with
  | nil => rfl
  | cons x rest ih =>
    obtain ⟨hfirst, hrest⟩ := List.forall_mem_cons.1 h
    rw [List.map_cons, unmatchedExpressions, hfirst, ih hrest, List.filter_cons]
    cases holds x with
    | true => rfl
    | false => rfl

/-- The only term of an affinity leaves its expressions that do not hold. -/
theorem unmetAffinity_singleton {labels : List Entry} {term : SelectorTerm}
    {unmatched : List MatchExpression}
    (h : unmatchedExpressions labels term.matchExpressions = .ok unmatched) :
    unmetAffinity labels [term] = unmatched.mapM unmetExpression := by
  unfold unmetAffinity
  rw [unmetAffinityAfter]
  split
  · rename_i hempty
    rw [List.isEmpty_iff.1 hempty] at h
    cases h
    rfl
  · rw [h]
    cases unmatched with
    | nil => rfl
    | cons first others =>
      change ((first :: others).mapM unmetExpression >>= fun requirements ↦ .ok requirements) = _
      cases (first :: others).mapM unmetExpression with
      | error fault => rfl
      | ok requirements => rfl

def listedRequirement (doc : Value) : UnmetRequirement where
  key := .text ((doc.text? "key").getD "")
  value := .text (bracketed ((valuesOf doc).map Value.spelling))
  aspect := some ("Operator", .text "In")

theorem unmetExpression_writtenExpression (doc : Value) :
    unmetExpression (writtenExpression doc) = .ok (listedRequirement doc) := by
  have htexts : (writtenExpression doc).values.mapM Value.display =
      .ok ((valuesOf doc).map Value.spelling) := by
    rw [writtenExpression, List.mapM_map]
    exact mapM_eq_ok_map fun value _ ↦ Value.display_text value.spelling
  rw [unmetExpression, htexts]
  rfl

/-- An affinity of one term that lists own values leaves the expressions about labels that are no
texts. -/
theorem unmetAffinity_own {labels : List Entry} {expressions : List Value}
    (h : ∀ expression ∈ expressions, ListsOwn labels expression) :
    unmetAffinity labels [⟨expressions.map writtenExpression⟩] =
      .ok ((expressions.filter fun expression ↦ !(labelOf labels expression).any text).map
        listedRequirement) := by
  have hunmatched := unmatchedExpressions_map fun expression hexpression ↦
    (h expression hexpression).expressionMatches_eq
  rw [unmetAffinity_singleton hunmatched, List.mapM_map]
  exact mapM_eq_ok_map fun expression _ ↦ unmetExpression_writtenExpression expression

/-! ## Reports -/

/-- A node manifest with labels and a pod manifest that asks for copies of them: by a selector, and by an
affinity of one term of expressions that list values.  Both can be read. -/
structure AsksForOwn (nodeDoc podDoc : Value) (labels : List Entry) (copies : List (String × Value))
    (expressions : List Value) : Prop where
  nodeReadable : (Node.ofManifest nodeDoc).isOk = true
  podReadable : (Pod.ofManifest podDoc).isOk = true
  labelled : nodeDoc.at? ["metadata", "labels"] = some (.map labels)
  selector : podDoc.at? ["spec", "nodeSelector"] = some (.ofFields copies)
  names : (copies.map (·.1)).Nodup
  copied : ∀ copy ∈ copies, valueAt? labels (.text copy.1) = some copy.2
  affinity : ∃ term, podDoc.at? ["spec", "affinity", "nodeAffinity",
      "requiredDuringSchedulingIgnoredDuringExecution", "nodeSelectorTerms"] = some (.list [term]) ∧
    term.at? ["matchExpressions"] = some (.list expressions)
  listed : ∀ expression ∈ expressions, ListsOwn labels expression

def copyEvidence (copy : String × Value) : List Detail :=
  [.ofText "Key" copy.1, .ofText "Value" copy.2.spelling]

def expressionEvidence (expression : Value) : List Detail :=
  [.ofText "Key" ((expression.text? "key").getD ""),
    .ofText "Value" (bracketed ((valuesOf expression).map Value.spelling)), .ofText "Operator" "In"]

theorem requirementEvidence_copy (copy : String × Value) :
    Detector.requirementEvidence ⟨.text copy.1, .text copy.2.spelling, none⟩ =
      .ok (copyEvidence copy) := by
  rw [Detector.requirementEvidence, Value.display_text]
  rfl

theorem requirementEvidence_listed (expression : Value) :
    Detector.requirementEvidence (listedRequirement expression) = .ok (expressionEvidence expression) := by
  simp only [Detector.requirementEvidence, listedRequirement, Value.display_text]
  rfl

section

variable {nodeDoc podDoc : Value} {labels : List Entry} {copies : List (String × Value)}
  {expressions : List Value} (h : AsksForOwn nodeDoc podDoc labels copies expressions)

include h

theorem nodeSelector_againstPair_own : Detector.nodeSelector.againstPair nodeDoc podDoc =
    .ok ((copies.filter fun copy ↦ !text copy.2).flatMap copyEvidence) := by
  obtain ⟨node, hnode⟩ := exists_of_isOk h.nodeReadable
  obtain ⟨pod, hpod⟩ := exists_of_isOk h.podReadable
  have hselector : pod.nodeSelector =
      copies.map fun copy ↦ (.text copy.1, .text copy.2.spelling) := by
    have hnames : ((copies.map fun copy ↦ (copy.1, Value.text copy.2.spelling)).map (·.1)).Nodup := by
      rw [List.map_map]
      exact h.names
    have hputs := putAll_texts hnames [] (List.forall_mem_nil _)
    rw [List.map_map] at hputs
    rw [Pod.nodeSelector_eq hpod h.selector, List.map_map]
    exact hputs
  have hunmet : Except.ok (ε := Fault) (unmetSelectors node.labels pod.nodeSelector) =
      .ok ((copies.filter fun copy ↦ !text copy.2).map fun copy ↦
        ⟨.text copy.1, .text copy.2.spelling, none⟩) := by
    rw [Node.labels_eq hnode h.labelled, hselector, unmetSelectors_copies h.copied]
  exact Detector.isolation_againstPair hnode hpod hunmet requirementEvidence_copy

theorem nodeAffinity_againstPair_own : Detector.nodeAffinity.againstPair nodeDoc podDoc =
    .ok ((expressions.filter fun expression ↦ !(labelOf labels expression).any text).flatMap
      expressionEvidence) := by
  obtain ⟨node, hnode⟩ := exists_of_isOk h.nodeReadable
  obtain ⟨pod, hpod⟩ := exists_of_isOk h.podReadable
  obtain ⟨term, hterm, hexpressions⟩ := h.affinity
  have hterm_eq {read : SelectorTerm} (hread : SelectorTerm.ofManifest term = .ok read) :
      read = ⟨expressions.map writtenExpression⟩ := by
    rw [SelectorTerm.ofManifest, Value.fieldElements_of_at? hexpressions] at hread
    obtain ⟨matchers, hmatchers, hread⟩ :=
      bind_eq_ok (x := expressions.mapM MatchExpression.ofManifest) hread
    cases hread
    rw [eq_map_of_mapM hmatchers fun expression hexpression _ hmatcher ↦
      (h.listed expression hexpression).eq_of_ofManifest hmatcher]
  have hterms : pod.affinityTerms = [⟨expressions.map writtenExpression⟩] := by
    have hall := Pod.mapM_affinityTerms hpod hterm
    rw [List.mapM_cons] at hall
    obtain ⟨read, hread, hall⟩ := bind_eq_ok hall
    rw [hterm_eq hread] at hall
    exact (Except.ok.inj hall).symm
  have hunmet := unmetAffinity_own h.listed
  rw [← hterms, ← Node.labels_eq hnode h.labelled] at hunmet
  rw [← Node.labels_eq hnode h.labelled]
  exact Detector.isolation_againstPair hnode hpod hunmet requirementEvidence_listed

end

/-- Of what a pod copies from the labels of a node, the node refuses exactly the copies of labels that are
no texts.  It refuses nothing when the labels are texts. -/
theorem own_labels_refused_unless_texts (nodeDoc podDoc : Value) (labels : List Entry)
    (copies : List (String × Value)) (expressions : List Value)
    (h : AsksForOwn nodeDoc podDoc labels copies expressions) :
    Detector.nodeSelector.againstPair nodeDoc podDoc =
      .ok ((copies.filter fun copy ↦ !text copy.2).flatMap copyEvidence) ∧
    Detector.nodeAffinity.againstPair nodeDoc podDoc =
      .ok ((expressions.filter fun expression ↦ !(labelOf labels expression).any text).flatMap
        expressionEvidence) ∧
    (Detector.nodeSelector.againstPair nodeDoc podDoc = .ok [] ↔
      ∀ copy ∈ copies, ∃ s, copy.2 = .text s) ∧
    (Detector.nodeAffinity.againstPair nodeDoc podDoc = .ok [] ↔
      ∀ expression ∈ expressions, ∃ s, labelOf labels expression = some (.text s)) := by
  have htext (value : Value) : text value = true ↔ ∃ s, value = .text s :=
    ⟨exists_of_text, fun ⟨s, hs⟩ ↦ hs ▸ rfl⟩
  refine ⟨nodeSelector_againstPair_own h, nodeAffinity_againstPair_own h, ?_, ?_⟩
  · rw [nodeSelector_againstPair_own h]
    simp [List.flatMap_eq_nil_iff, copyEvidence, htext]
  · rw [nodeAffinity_againstPair_own h]
    simp [List.flatMap_eq_nil_iff, expressionEvidence, Option.any_eq_true, htext]

/-! ### Labels of a machine -/

def labelledNode (labels : List (String × Value)) : Value :=
  .ofFields [("metadata", .ofFields [("name", .text "n1"), ("labels", .ofFields labels)])]

def listing (name : String) (values : List Value) : Value :=
  .ofFields [("key", .text name), ("operator", .text "In"), ("values", .list values)]

/-- A pod manifest with a selector and an affinity of one term. -/
def choosyPod (copies : List (String × Value)) (expressions : List Value) : Value :=
  .ofFields [("spec", .ofFields [("nodeSelector", .ofFields copies),
    ("affinity", .ofFields [("nodeAffinity", .ofFields [
      ("requiredDuringSchedulingIgnoredDuringExecution", .ofFields [
        ("nodeSelectorTerms", .list [.ofFields [("matchExpressions", .list expressions)]])])])])])]

/-- A label that is a truth value is refused in both ways, and the labels that are texts in neither, be it
the text of an integer. -/
theorem own_labels_refused_unless_texts_spare :
    let labels : List (String × Value) :=
      [("zone", .text "eu"), ("cores", .text "8"), ("spare", .bool true)]
    let copies : List (String × Value) := [("cores", .text "8"), ("spare", .bool true)]
    let expressions := [listing "zone" [.text "us", .text "eu"], listing "spare" [.bool true]]
    AsksForOwn (labelledNode labels) (choosyPod copies expressions)
      (labels.map fun label ↦ (.text label.1, label.2)) copies expressions ∧
    Detector.nodeSelector.againstPair (labelledNode labels) (choosyPod copies expressions) =
      .ok [⟨"Key", .text "spare"⟩, ⟨"Value", .text "True"⟩] ∧
    Detector.nodeAffinity.againstPair (labelledNode labels) (choosyPod copies expressions) =
      .ok [⟨"Key", .text "spare"⟩, ⟨"Value", .text "[True]"⟩, ⟨"Operator", .text "In"⟩] := by
  intro labels copies expressions
  have h : AsksForOwn (labelledNode labels) (choosyPod copies expressions)
      (labels.map fun label ↦ (.text label.1, label.2)) copies expressions := {
    nodeReadable := by decide +kernel
    podReadable := by decide +kernel
    labelled := rfl
    selector := rfl
    names := by decide
    copied := by decide
    affinity := ⟨_, rfl, rfl⟩
    listed := List.forall_mem_cons.2 ⟨⟨rfl, .text "eu", rfl, by decide⟩,
      List.forall_mem_singleton.2 ⟨rfl, .bool true, rfl, by decide⟩⟩ }
  obtain ⟨hselector, haffinity, -⟩ := own_labels_refused_unless_texts _ _ _ _ _ h
  exact ⟨h, hselector.trans (by decide +kernel), haffinity.trans (by decide +kernel)⟩

/-- A node refuses the copies of a label that is an integer. -/
theorem own_integer_refused :
    let label : String × Value := ("cores", .int 8)
    let expression := listing "cores" [.int 8]
    AsksForOwn (labelledNode [label]) (choosyPod [label] [expression]) [(.text "cores", .int 8)] [label]
      [expression] ∧
    Detector.nodeSelector.againstPair (labelledNode [label]) (choosyPod [label] [expression]) =
      .ok [⟨"Key", .text "cores"⟩, ⟨"Value", .text "8"⟩] ∧
    Detector.nodeAffinity.againstPair (labelledNode [label]) (choosyPod [label] [expression]) =
      .ok [⟨"Key", .text "cores"⟩, ⟨"Value", .text "[8]"⟩, ⟨"Operator", .text "In"⟩] := by
  intro label expression
  refine ⟨?_, by decide +kernel, by decide +kernel⟩
  exact {
    nodeReadable := by decide +kernel
    podReadable := by decide +kernel
    labelled := rfl
    selector := rfl
    names := by decide
    copied := List.forall_mem_singleton.2 rfl
    affinity := ⟨_, rfl, rfl⟩
    listed := List.forall_mem_singleton.2 ⟨rfl, .int 8, rfl, List.mem_singleton_self _⟩ }

end Scheduling

end ClusterAudit
