import ClusterAudit.Detector.Catalog
import ClusterAudit.Proofs.Manifest.Schema
import ClusterAudit.Proofs.Reordering

/-!
# Judging usable assets

Every detector can judge every usable asset.  The check of affinities relies on labels and values that
can be read as integers and on keys that can be looked up, the check of users on a strategy that can be
put into words, and all evidence on values that can be written.
-/

namespace ClusterAudit

open Manifest Shape Traversal

/-! ## Integers of labels -/

namespace Text

theorem length_of_readBasicDigits {cs : List Char} {digits : List Nat}
    (h : readBasicDigits cs = some digits) : digits.length = cs.countP Char.isDigit := by
  unfold readBasicDigits at h
  split at h
  · cases h
  · rename_i hbasic
    cases h
    have hall : cs.all Char.isDigit = true := by
      rw [Bool.or_eq_true, not_or, Bool.not_eq_true', Bool.not_eq_false] at hbasic
      exact hbasic.2
    rw [List.length_map, List.countP_eq_length.2 (List.all_eq_true.1 hall)]

/-- A strict numeral has no more digits than its text. -/
theorem length_le_of_strictNumeral? {s : String} {negative : Bool} {digits : List Nat}
    (h : strictNumeral? s = some (negative, digits)) :
    digits.length ≤ s.toList.countP Char.isDigit := by
  unfold strictNumeral? at h
  split at h
  · rename_i body hs
    obtain ⟨read, hread, hsigned⟩ := Option.map_eq_some_iff.1 h
    cases hsigned
    rw [length_of_readBasicDigits hread, hs]
    exact (List.sublist_cons_self _ body).countP_le
  · obtain ⟨read, hread, hsigned⟩ := Option.map_eq_some_iff.1 h
    cases hsigned
    exact Nat.le_of_eq (length_of_readBasicDigits hread)

end Text

namespace Scheduling

theorem operandInteger_isOk {v : Value} (h : label v = true) : (operandInteger v).isOk = true := by
  obtain ⟨s, rfl, hdigits⟩ := exists_of_label h
  unfold operandInteger
  dsimp only
  rcases hnumeral : Text.strictNumeral? s with _ | ⟨negative, digits⟩
  · rfl
  · have hlength : digits.length ≤ Text.digitLimit :=
      Nat.le_trans (Text.length_le_of_strictNumeral? hnumeral) hdigits
    dsimp only
    rw [Text.ofSignedDigits, if_pos hlength]
    rfl

theorem operandIntegers_isOk {values : List Value} (h : ∀ value ∈ values, label value = true) :
    (operandIntegers values).isOk = true := by
  rw [operandIntegers, isOk_bind_pure, mapM_isOk_iff]
  exact fun value hvalue ↦ operandInteger_isOk (h value hvalue)

theorem comparesWithAll_isOk (compare : Int → Int → Bool) {found : Option Value} {values : List Value}
    (hfound : ∀ value ∈ found, label value = true) (hvalues : ∀ value ∈ values, label value = true) :
    (comparesWithAll compare found values).isOk = true := by
  cases found with
  | none => rfl
  | some value =>
    obtain ⟨operand, hoperand⟩ := exists_of_isOk (operandInteger_isOk (hfound value rfl))
    obtain ⟨bounds, hbounds⟩ := exists_of_isOk (operandIntegers_isOk hvalues)
    simp only [comparesWithAll, hoperand, hbounds, bind, Except.bind]
    cases operand with
    | none => rfl
    | some n =>
      cases bounds with
      | none => rfl
      | some ns => rfl

/-- What is told about a requirement can be written. -/
structure UnmetRequirement.Usable (requirement : UnmetRequirement) : Prop where
  value : requirement.value.IsName
  aspect : ∀ aspect ∈ requirement.aspect, aspect.2.IsName

theorem unmetExpression_yields {expression : MatchExpression} (h : expression.Usable) :
    Yields UnmetRequirement.Usable (unmetExpression expression) := by
  have htexts : Yields (fun _ ↦ True) (expression.values.mapM Value.display) := by
    refine (Yields.mapM (q := fun _ ↦ True) fun value hvalue ↦ ?_).mono fun _ _ ↦ trivial
    obtain ⟨s, rfl, -⟩ := exists_of_label (h.values value hvalue)
    exact ⟨s, Value.display_text s, trivial⟩
  refine htexts.bind fun texts _ ↦ .pure ⟨.text _, ?_⟩
  rintro _ ⟨⟩
  exact h.operator

theorem unmetSelectors_usable {labels selector : List Entry}
    (h : ∀ entry ∈ selector, entry.2.IsName) :
    ∀ requirement ∈ unmetSelectors labels selector, requirement.Usable := by
  intro requirement hrequirement
  obtain ⟨entry, hentry, rfl⟩ := List.mem_map.1 hrequirement
  exact ⟨h entry (List.mem_filter.1 hentry).1, nofun⟩

theorem untoleratedTaints_usable {taints : List Taint} (h : ∀ taint ∈ taints, taint.Usable)
    (tolerations : Option (List Toleration)) :
    ∀ requirement ∈ untoleratedTaints (some taints) tolerations, requirement.Usable := by
  cases tolerations with
  | none => exact List.forall_mem_nil _
  | some tolerations =>
    intro requirement hrequirement
    obtain ⟨taint, htaint, rfl⟩ := List.mem_map.1 hrequirement
    have husable := h taint (List.mem_filter.1 htaint).1
    refine ⟨husable.value, ?_⟩
    rintro _ ⟨⟩
    exact husable.effect

variable {labels : List Entry} (hlabels : ∀ entry ∈ labels, label entry.2 = true)

include hlabels

theorem expressionMatches_isOk {expression : MatchExpression} (h : expression.Usable) :
    (expressionMatches labels expression).isOk = true := by
  obtain ⟨key, hkey, -⟩ := h.key.scalar
  have hfound : ∀ value ∈ valueAt? labels key, label value = true := by
    intro value hvalue
    obtain ⟨entry, hentry, rfl⟩ := Option.map_eq_some_iff.1 hvalue
    exact hlabels entry (List.mem_of_find?_eq_some hentry)
  have hcompares (compare : Int → Int → Bool) :
      (comparesWithAll compare (valueAt? labels key) expression.values).isOk = true :=
    comparesWithAll_isOk compare hfound h.values
  have hlookup : lookup? labels expression.key = .ok (valueAt? labels key) := by
    rw [hkey]
    rfl
  unfold expressionMatches
  rw [hlookup]
  simp only [bind, Except.bind]
  split_ifs
  · rfl
  · rfl
  · rfl
  · rfl
  · exact hcompares _
  · exact hcompares _
  · rfl

theorem unmatchedExpressions_yields {expressions : List MatchExpression}
    (h : ∀ expression ∈ expressions, expression.Usable) :
    Yields (fun unmatched ↦ ∀ expression ∈ unmatched, expression.Usable)
      (unmatchedExpressions labels expressions) := by
  induction expressions with
  | nil => exact ⟨[], rfl, List.forall_mem_nil _⟩
  | cons expression rest ih =>
    obtain ⟨hfirst, hrest⟩ := List.forall_mem_cons.1 h
    obtain ⟨holds, hholds⟩ := exists_of_isOk (expressionMatches_isOk hlabels hfirst)
    rw [unmatchedExpressions, hholds]
    refine (ih hrest).bind fun others hothers ↦ .pure ?_
    split
    · exact hothers
    · exact List.forall_mem_cons.2 ⟨hfirst, hothers⟩

theorem unmetAffinity_yields {terms : List SelectorTerm}
    (h : ∀ term ∈ terms, ∀ expression ∈ term.matchExpressions, expression.Usable) :
    Yields (fun unmet ↦ ∀ requirement ∈ unmet, requirement.Usable) (unmetAffinity labels terms) := by
  have hafter (collected : List UnmetRequirement) (hcollected : ∀ other ∈ collected, other.Usable) :
      Yields (fun unmet ↦ ∀ requirement ∈ unmet, requirement.Usable)
        (unmetAffinityAfter labels collected terms) := by
    induction terms generalizing collected with
    | nil => exact ⟨collected, rfl, hcollected⟩
    | cons term rest ih =>
      obtain ⟨hfirst, hrest⟩ := List.forall_mem_cons.1 h
      unfold unmetAffinityAfter
      split
      · exact ih hrest collected hcollected
      · apply (unmatchedExpressions_yields hlabels hfirst).bind
        intro unmatched hunmatched
        split
        · exact ⟨[], rfl, List.forall_mem_nil _⟩
        · apply (Yields.mapM fun expression hexpression ↦
            unmetExpression_yields (hunmatched expression hexpression)).bind
          intro later hlater
          exact ih hrest _ (List.forall_mem_append.2 ⟨hcollected, hlater⟩)
  exact hafter [] (List.forall_mem_nil _)

end Scheduling

/-! ## Strategies in words -/

namespace UserStrategy

theorem describeRange_isOk {range : Int × Int}
    (h : Text.isWritable range.1 = true ∧ Text.isWritable range.2 = true) :
    (describeRange range).isOk = true := by
  unfold describeRange describeBound
  rw [if_pos h.1, if_pos h.2]
  rfl

theorem Usable.describe_isOk {strategy : UserStrategy} (h : strategy.Usable) :
    strategy.describe.isOk = true := by
  have hranges : (strategy.ranges.mapM describeRange).isOk = true :=
    mapM_isOk_iff.2 fun range hrange ↦ describeRange_isOk (h.ranges range hrange)
  obtain ⟨ranges, hranges⟩ := exists_of_isOk hranges
  obtain ⟨rule, hrule⟩ := exists_of_text h.rule
  unfold describe
  rw [hranges, hrule]
  rfl

end UserStrategy

/-! ## Checks -/

namespace Detector

theorem requirementEvidence_isOk {requirement : Scheduling.UnmetRequirement} (h : requirement.Usable) :
    (requirementEvidence requirement).isOk = true := by
  unfold requirementEvidence
  rw [h.value.display]
  cases haspect : requirement.aspect with
  | none => rfl
  | some aspect =>
    have hwritten : aspect.2.display = .ok aspect.2.spelling := (h.aspect aspect haspect).display
    simp only [hwritten]
    rfl

theorem isolation_check_isOk {name explanation url : String}
    {unmet : Node → Pod → Except Fault (List Scheduling.UnmetRequirement)}
    (hunmet : ∀ node pod, node.Usable → pod.Usable →
      Yields (fun unmet ↦ ∀ requirement ∈ unmet, requirement.Usable) (unmet node pod)) {asset : Asset}
    (h : asset.Usable) : ((isolation name unmet explanation url).check asset).isOk = true := by
  change (ofPair unmet asset).isOk = true
  unfold ofPair
  split
  · rename_i node pod
    obtain ⟨requirements, hrequirements, husable⟩ := hunmet node pod (h.1 node rfl) (h.2 pod rfl)
    rw [hrequirements]
    change (requirements.mapM requirementEvidence >>= fun details ↦ pure details.flatten).isOk = true
    rw [isOk_bind_pure, mapM_isOk_iff]
    exact fun requirement hmem ↦ requirementEvidence_isOk (husable requirement hmem)
  · rfl

theorem rootEvidence_isOk {policy : PodSecurityPolicy} (h : policy.Usable) :
    (rootEvidence policy).isOk = true := by
  unfold rootEvidence
  cases hstrategy : policy.runAsUser with
  | none => rfl
  | some strategy =>
    dsimp only
    split_ifs
    · rfl
    · rfl
    · rw [isOk_bind_pure]
      exact (h.runAsUser strategy hstrategy).describe_isOk

theorem podSecurity_check_isOk {name explanation recommendation : String} {urls : List String}
    {evidence : PodSecurityPolicy → Except Fault (List Detail)}
    (hevidence : ∀ policy, policy.Usable → (evidence policy).isOk = true) {asset : Asset}
    (h : asset.Usable) :
    ((podSecurity name evidence explanation recommendation urls).check asset).isOk = true := by
  cases asset with
  | podSecurityPolicy policy => exact hevidence policy h
  | _ => rfl

theorem subjectEvidence_isOk {subject : Subject} (h : subject.Usable) :
    (subjectEvidence subject).isOk = true := by
  unfold subjectEvidence
  rw [Value.written_isOk_iff, List.forall_mem_cons]
  refine ⟨h.kind.isWritable, ?_⟩
  split
  · exact forall_accountParts h.ns h.name
  · exact List.forall_mem_singleton.2 h.name.isWritable

theorem clusterAdminEvidence_isOk {binding : RoleBinding} (h : binding.Usable) :
    (clusterAdminEvidence binding).isOk = true := by
  unfold clusterAdminEvidence
  split
  · rw [isOk_bind_pure, mapM_isOk_iff]
    exact fun subject hsubject ↦ subjectEvidence_isOk (h.subjects subject hsubject)
  · rfl

theorem containerEvidence_isOk {container : Container} (h : container.Usable) :
    (containerEvidence container).isOk = true := by
  unfold containerEvidence
  rw [h.name.display, h.image.display]
  change (container.volumeMounts.mapM mountEvidence >>= fun mounts ↦ pure _).isOk = true
  rw [isOk_bind_pure, mapM_isOk_iff]
  intro mount hmount
  have husable := h.volumeMounts mount hmount
  rw [mountEvidence, husable.name.display, husable.mountPath.display]
  rfl

theorem escalationEvidence_isOk {dependency : EscalationDependency} (h : dependency.pod.Usable) :
    (escalationEvidence dependency).isOk = true := by
  have hcontainers : (dependency.pod.containers.mapM containerEvidence).isOk = true :=
    mapM_isOk_iff.2 fun container hcontainer ↦ containerEvidence_isOk (h.containers container hcontainer)
  obtain ⟨containers, hcontainers⟩ := exists_of_isOk hcontainers
  unfold escalationEvidence
  split
  · rfl
  · dsimp only
    rw [Value.written_of_forall (List.forall_mem_append.2
      ⟨h.nameParts, List.forall_mem_singleton.2 h.podIP.isWritable⟩), hcontainers]
    rfl

theorem ofRole_isOk (evidence : Role → List Detail) (asset : Asset) :
    (ofRole evidence asset).isOk = true := by
  cases asset with
  | _ => rfl

theorem rbacCatalog_check_isOk {asset : Asset} (h : asset.Usable) :
    ∀ detector ∈ rbacCatalog, (detector.check asset).isOk = true := by
  simp only [rbacCatalog, List.forall_mem_cons]
  refine ⟨?_, ofRole_isOk _ asset, ofRole_isOk _ asset, ofRole_isOk _ asset, ?_, ?_,
    List.forall_mem_nil _⟩
  · cases asset with
    | binding binding => exact clusterAdminEvidence_isOk h
    | _ => rfl
  · cases asset with
    | _ => rfl
  · cases asset with
    | escalationDependency dependency => exact escalationEvidence_isOk h.2
    | _ => rfl

theorem isolationCatalog_check_isOk {asset : Asset} (h : asset.Usable) :
    ∀ detector ∈ isolationCatalog, (detector.check asset).isOk = true := by
  simp only [isolationCatalog, List.forall_mem_cons]
  refine ⟨?_, ?_, ?_, List.forall_mem_nil _⟩
  · exact isolation_check_isOk
      (fun _ _ _ hpod ↦ ⟨_, rfl, Scheduling.unmetSelectors_usable hpod.selector⟩) h
  · exact isolation_check_isOk
      (fun _ _ hnode hpod ↦ Scheduling.unmetAffinity_yields hnode.labels hpod.expressions) h
  · exact isolation_check_isOk
      (fun _ _ hnode _ ↦ ⟨_, rfl, Scheduling.untoleratedTaints_usable hnode.taints _⟩) h

theorem netRawEvidence_isOk (policy : PodSecurityPolicy) : (netRawEvidence policy).isOk = true := by
  unfold netRawEvidence
  cases policy.requiredDropCapabilities with
  | none => rfl
  | some dropped =>
    dsimp only
    split
    · rfl
    · rfl

theorem addedCapabilitiesEvidence_isOk (policy : PodSecurityPolicy) :
    (addedCapabilitiesEvidence policy).isOk = true := by
  unfold addedCapabilitiesEvidence
  split
  · rfl
  · rfl

theorem keptCapabilitiesEvidence_isOk (policy : PodSecurityPolicy) :
    (keptCapabilitiesEvidence policy).isOk = true := by
  unfold keptCapabilitiesEvidence
  dsimp only
  split
  · rfl
  · rfl

theorem podSecurityCatalog_check_isOk {asset : Asset} (h : asset.Usable) :
    ∀ detector ∈ podSecurityCatalog, (detector.check asset).isOk = true := by
  simp only [podSecurityCatalog, List.forall_mem_cons]
  refine ⟨?_, ?_, ?_, ?_, ?_, ?_, ?_, ?_, ?_, List.forall_mem_nil _⟩
  · exact podSecurity_check_isOk (fun _ _ ↦ rfl) h
  · exact podSecurity_check_isOk (fun _ _ ↦ rfl) h
  · exact podSecurity_check_isOk (fun _ _ ↦ rfl) h
  · exact podSecurity_check_isOk (fun _ _ ↦ rfl) h
  · exact podSecurity_check_isOk (fun _ _ ↦ rfl) h
  · exact podSecurity_check_isOk (fun _ ↦ rootEvidence_isOk) h
  · exact podSecurity_check_isOk (fun policy _ ↦ netRawEvidence_isOk policy) h
  · exact podSecurity_check_isOk (fun policy _ ↦ addedCapabilitiesEvidence_isOk policy) h
  · exact podSecurity_check_isOk (fun policy _ ↦ keptCapabilitiesEvidence_isOk policy) h

/-- Every detector can judge every usable asset. -/
theorem evaluate_isOk {detector : Detector} (hdetector : detector ∈ all) {asset : Asset}
    (h : asset.Usable) : (detector.evaluate (some asset)).isOk = true := by
  have hcheck : (detector.check asset).isOk = true := by
    obtain ⟨catalog, -, hcatalog⟩ := List.mem_flatMap.1 hdetector
    cases catalog with
    | rbac => exact rbacCatalog_check_isOk h detector hcatalog
    | isolation => exact isolationCatalog_check_isOk h detector hcatalog
    | podSecurity => exact podSecurityCatalog_check_isOk h detector hcatalog
  unfold evaluate
  split
  · rfl
  · rename_i hsome
    cases hsome
    split
    · exact hcheck
    · rfl

end Detector

end ClusterAudit
