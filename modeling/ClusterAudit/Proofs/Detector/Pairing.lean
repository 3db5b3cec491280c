import ClusterAudit.Detector.Isolation
import ClusterAudit.Proofs.Manifest.Path

/-!
# Pairs that are read from manifests

A node and a pod that are read from two manifests can be judged as a pair.  What the detectors of node
isolation look at stands at fixed paths of the two manifests: labels and taints in the one, and the
selector, the affinity terms and the tolerations in the other.
-/

namespace ClusterAudit

open Manifest Shape Traversal

/-- The evidence of a detector against the pair of a node and a pod that are read from manifests. -/
def Detector.againstPair (detector : Detector) (nodeDoc podDoc : Value) :
    Except Fault (List Detail) := do
  let node ← Node.ofManifest nodeDoc
  let pod ← Pod.ofManifest podDoc
  detector.evaluate (some (.schedulingPair ⟨some node, some pod⟩))

theorem Detector.isolation_againstPair {name explanation url : String}
    {unmet : Node → Pod → Except Fault (List Scheduling.UnmetRequirement)} {nodeDoc podDoc : Value}
    {node : Node} {pod : Pod} (hnode : Node.ofManifest nodeDoc = .ok node)
    (hpod : Pod.ofManifest podDoc = .ok pod) {α : Type} {sources : List α}
    {requirement : α → Scheduling.UnmetRequirement}
    (hunmet : unmet node pod = .ok (sources.map requirement)) {evidence : α → List Detail}
    (hevidence : ∀ source, requirementEvidence (requirement source) = .ok (evidence source)) :
    (isolation name unmet explanation url).againstPair nodeDoc podDoc =
      .ok (sources.flatMap evidence) := by
  rw [againstPair, hnode, hpod]
  change ofPair unmet (.schedulingPair ⟨some node, some pod⟩) = _
  rw [ofPair, hunmet]
  change ((sources.map requirement).mapM requirementEvidence >>= fun details ↦
    pure details.flatten) = _
  have hdetails : sources.mapM (requirementEvidence ∘ requirement) = .ok (sources.map evidence) :=
    mapM_eq_ok_map fun source _ ↦ hevidence source
  rw [List.mapM_map, hdetails, List.flatMap_def]
  rfl

/-! ## Nodes -/

namespace Node

variable {doc : Value} {node : Node} (h : Node.ofManifest doc = .ok node)

include h

/-- The taints of a node are read from the list in its specification. -/
theorem mapM_taints {taints : List Value} (hat : doc.at? ["spec", "taints"] = some (.list taints)) :
    taints.mapM Taint.ofManifest = .ok node.taints := by
  obtain ⟨written, hwritten, hlist⟩ := specification_of_at? hat
  obtain ⟨header, -, h⟩ := bind_eq_ok h
  obtain ⟨spec, hspec, h⟩ := bind_eq_ok h
  obtain ⟨elements, helements, h⟩ := bind_eq_ok h
  obtain ⟨read, hread, h⟩ := bind_eq_ok h
  obtain ⟨name, -, h⟩ := bind_eq_ok h
  obtain ⟨given, -, h⟩ := bind_eq_ok h
  obtain ⟨labels, -, h⟩ := bind_eq_ok h
  cases h
  obtain rfl : written = spec := Except.ok.inj (hwritten.symm.trans hspec)
  obtain rfl : taints = elements :=
    Except.ok.inj ((Value.fieldElements_of_at? hlist).symm.trans helements)
  exact hread

/-- The labels of a node are the entries of the map in its metadata. -/
theorem labels_eq {labels : List Entry} (hat : doc.at? ["metadata", "labels"] = some (.map labels)) :
    node.labels = labels := by
  obtain ⟨written, hwritten, hmap⟩ := metadata_of_at? hat
  obtain ⟨header, hheader, h⟩ := bind_eq_ok h
  obtain ⟨spec, -, h⟩ := bind_eq_ok h
  obtain ⟨elements, -, h⟩ := bind_eq_ok h
  obtain ⟨taints, -, h⟩ := bind_eq_ok h
  obtain ⟨name, -, h⟩ := bind_eq_ok h
  obtain ⟨given, hgiven, h⟩ := bind_eq_ok h
  obtain ⟨entries, hentries, h⟩ := bind_eq_ok h
  cases h
  obtain rfl : written = header := Except.ok.inj (hwritten.symm.trans hheader)
  obtain rfl : Value.map labels = given :=
    Except.ok.inj ((Value.field_eq_of_at? hmap).symm.trans hgiven)
  rw [Value.orEmptyMap_map] at hentries
  exact (Except.ok.inj hentries).symm

end Node

/-! ## Pods -/

namespace Pod

variable {doc : Value} {pod : Pod}

/-- The parts of a pod by which it chooses nodes are read from its specification. -/
theorem exists_of_ofManifest (h : Pod.ofManifest doc = .ok pod) :
    ∃ spec required terms, specification doc = .ok spec ∧ requiredAffinity spec = .ok required ∧
      required.fieldElements "nodeSelectorTerms" = .ok terms ∧
      terms.mapM SelectorTerm.ofManifest = .ok pod.affinityTerms ∧
      readTolerations spec = .ok pod.tolerations ∧ readNodeSelector spec = .ok pod.nodeSelector := by
  obtain ⟨header, -, h⟩ := bind_eq_ok h
  obtain ⟨spec, hspec, h⟩ := bind_eq_ok h
  obtain ⟨status, -, h⟩ := bind_eq_ok h
  obtain ⟨required, hrequired, h⟩ := bind_eq_ok h
  obtain ⟨terms, hterms, h⟩ := bind_eq_ok h
  obtain ⟨affinityTerms, haffinityTerms, h⟩ := bind_eq_ok h
  obtain ⟨tolerations, htolerations, h⟩ := bind_eq_ok h
  obtain ⟨docs, -, h⟩ := bind_eq_ok h
  obtain ⟨containers, -, h⟩ := bind_eq_ok h
  obtain ⟨account, -, h⟩ := bind_eq_ok h
  obtain ⟨formerAccount, -, h⟩ := bind_eq_ok h
  obtain ⟨name, -, h⟩ := bind_eq_ok h
  obtain ⟨ns, -, h⟩ := bind_eq_ok h
  obtain ⟨selector, hselector, h⟩ := bind_eq_ok h
  obtain ⟨nodeName, -, h⟩ := bind_eq_ok h
  obtain ⟨podIP, -, h⟩ := bind_eq_ok h
  cases h
  exact ⟨spec, required, terms, hspec, hrequired, hterms, haffinityTerms, htolerations, hselector⟩

variable (h : Pod.ofManifest doc = .ok pod)

include h

omit h in
theorem eq_of_selectorEntry {entry texts : Entry} (h : selectorEntry entry = .ok texts) :
    texts = (.text entry.1.spelling, .text entry.2.spelling) := by
  obtain ⟨key, hkey, h⟩ := bind_eq_ok h
  obtain ⟨value, hvalue, h⟩ := bind_eq_ok h
  cases h
  rw [Value.eq_of_written hkey, Value.eq_of_written hvalue]
  rfl

/-- The tolerations of a pod are read from the list in its specification. -/
theorem exists_tolerations {tolerations : List Value}
    (hat : doc.at? ["spec", "tolerations"] = some (.list tolerations)) :
    ∃ read, pod.tolerations = some read ∧ tolerations.mapM Toleration.ofManifest = .ok read := by
  obtain ⟨spec, -, -, hspec, -, -, -, htolerations, -⟩ := exists_of_ofManifest h
  obtain ⟨written, hwritten, hlist⟩ := specification_of_at? hat
  obtain rfl : written = spec := Except.ok.inj (hwritten.symm.trans hspec)
  obtain ⟨given, hgiven, hrest⟩ := bind_eq_ok htolerations
  obtain rfl : Value.list tolerations = given :=
    Except.ok.inj ((Value.field_eq_of_at? hlist).symm.trans hgiven)
  rw [if_neg nofun] at hrest
  obtain ⟨elements, helements, hrest⟩ := bind_eq_ok hrest
  obtain ⟨read, hread, hpod⟩ := bind_eq_ok hrest
  obtain rfl : tolerations = elements := Except.ok.inj helements
  exact ⟨read, (Except.ok.inj hpod).symm, hread⟩

/-- The selector of a pod has the entries of the map in its specification, as texts. -/
theorem nodeSelector_eq {selector : List Entry}
    (hat : doc.at? ["spec", "nodeSelector"] = some (.map selector)) :
    pod.nodeSelector =
      putAll [] (selector.map fun entry ↦ (.text entry.1.spelling, .text entry.2.spelling)) := by
  obtain ⟨spec, -, -, hspec, -, -, -, -, hselector⟩ := exists_of_ofManifest h
  obtain ⟨written, hwritten, hmap⟩ := specification_of_at? hat
  obtain rfl : written = spec := Except.ok.inj (hwritten.symm.trans hspec)
  unfold readNodeSelector at hselector
  rw [Value.field_eq_of_at? hmap] at hselector
  change ((Value.map selector).orEmptyMap.entries >>= fun entries ↦ entries.mapM selectorEntry >>=
    fun texts ↦ pure (putAll [] texts)) = _ at hselector
  rw [Value.orEmptyMap_map] at hselector
  change (selector.mapM selectorEntry >>= fun texts ↦ pure (putAll [] texts)) = _ at hselector
  obtain ⟨texts, htexts, hselector⟩ := bind_eq_ok hselector
  rw [← Except.ok.inj hselector, eq_map_of_mapM htexts fun entry _ _ h ↦ eq_of_selectorEntry h]

/-- The affinity terms of a pod are read from the list of its required node affinity. -/
theorem mapM_affinityTerms {terms : List Value}
    (hat : doc.at? ["spec", "affinity", "nodeAffinity",
      "requiredDuringSchedulingIgnoredDuringExecution", "nodeSelectorTerms"] = some (.list terms)) :
    terms.mapM SelectorTerm.ofManifest = .ok pod.affinityTerms := by
  obtain ⟨spec, required, read, hspec, hrequired, hread, hterms, -, -⟩ := exists_of_ofManifest h
  obtain ⟨written, hwritten, hat⟩ := specification_of_at? hat
  obtain rfl : written = spec := Except.ok.inj (hwritten.symm.trans hspec)
  obtain ⟨affinity, haffinity, hself, hat⟩ := Value.orEmptyMap_field_of_at? hat
  obtain ⟨nodeAffinity, hnodeAffinity, hnodeSelf, hat⟩ := Value.orEmptyMap_field_of_at? hat
  obtain ⟨inner, hinner, hinnerSelf, hlist⟩ := Value.orEmptyMap_field_of_at? hat
  have hsame : requiredAffinity written = .ok inner := by
    rw [requiredAffinity, haffinity]
    change affinity.orEmptyMap.field "nodeAffinity" >>= _ = _
    rw [hself, hnodeAffinity]
    change nodeAffinity.orEmptyMap.field _ >>= _ = _
    rw [hnodeSelf, hinner]
    exact congrArg Except.ok hinnerSelf
  obtain rfl : inner = required := Except.ok.inj (hsame.symm.trans hrequired)
  obtain rfl : terms = read := Except.ok.inj ((Value.fieldElements_of_at? hlist).symm.trans hread)
  exact hterms

end Pod

end ClusterAudit
