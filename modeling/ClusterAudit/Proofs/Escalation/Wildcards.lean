import ClusterAudit.Proofs.Escalation.Grants
import Mathlib.Data.List.TakeWhile

/-!
# Wildcards in rules

Rules are matched by the texts of their pairs, and the wildcard is a text like any other.  A wildcard
verb is one that changes things.  A wildcard resource escalates in the core group and in the wildcard
group; in another group its pair is a sensitive one only if this group has the name of a sensitive
resource.  A wildcard group escalates with the wildcard resource and with what opens a way into a
container.  So a wildcard in place of a verb never takes an escalation away, while one in place of a
group or of a resource may do so.
-/

namespace ClusterAudit.PolicyRule

/-! ## Pairs in a rule -/

/-- The rule has a verb that changes things. -/
def Changes (rule : PolicyRule) : Prop :=
  ∃ verb ∈ rule.verbs, escalatingVerbs.contains verb = true

/-- The pair escalates with the verbs of the rule, or already by itself. -/
def EscalatesBy (rule : PolicyRule) (group resource : String) : Prop :=
  alwaysEscalating.contains (groupResource group resource) = true ∨
    escalatesOnWrite (groupResource group resource) = true ∧ rule.Changes

section

variable (rule : PolicyRule) (before after : List String)

/-- What is found in a list is one of its entries, or is found among the others. -/
theorem exists_mem_append_cons {p : String → Prop} (entry : String) :
    (∃ other ∈ before ++ entry :: after, p other) ↔ (∃ other ∈ before ++ after, p other) ∨ p entry := by
  simp only [List.mem_append, List.mem_cons, or_and_right, exists_or, exists_eq_left]
  rw [or_assoc, or_comm (a := p entry)]

theorem isEscalating_iff_exists :
    rule.isEscalating = true ↔
      ∃ group ∈ rule.apiGroups, ∃ resource ∈ rule.resources, rule.EscalatesBy group resource := by
  rw [isEscalating_iff]
  constructor
  · rintro ⟨group, resource, ⟨hgroup, hresource⟩, h⟩
    exact ⟨group, hgroup, resource, hresource, h⟩
  · rintro ⟨group, hgroup, resource, hresource, h⟩
    exact ⟨group, resource, ⟨hgroup, hresource⟩, h⟩

/-- One of several resources escalates in some group, or the others do without it. -/
theorem isEscalating_resources (resource : String) :
    { rule with resources := before ++ resource :: after }.isEscalating = true ↔
      { rule with resources := before ++ after }.isEscalating = true ∨
        ∃ group ∈ rule.apiGroups, rule.EscalatesBy group resource := by
  simp only [isEscalating_iff_exists, exists_mem_append_cons, and_or_left, exists_or]
  rfl

/-- One of several groups escalates with some resource, or the others do without it. -/
theorem isEscalating_apiGroups (group : String) :
    { rule with apiGroups := before ++ group :: after }.isEscalating = true ↔
      { rule with apiGroups := before ++ after }.isEscalating = true ∨
        ∃ resource ∈ rule.resources, rule.EscalatesBy group resource := by
  simp only [isEscalating_iff_exists, exists_mem_append_cons]
  rfl

/-- With a wildcard among the verbs a rule escalates if it does with any verbs. -/
theorem isEscalating_wildcard_verb {verbs : List String} (h : "*" ∈ verbs)
    (hrule : rule.isEscalating = true) : { rule with verbs }.isEscalating = true := by
  have hchanges : { rule with verbs }.Changes := ⟨"*", h, by decide⟩
  obtain ⟨group, hgroup, resource, hresource, hpair⟩ := rule.isEscalating_iff_exists.1 hrule
  refine (isEscalating_iff_exists _).2 ⟨group, hgroup, resource, hresource, ?_⟩
  rcases hpair with halways | ⟨honWrite, -⟩
  · exact .inl halways
  · exact .inr ⟨honWrite, hchanges⟩

end

/-! ## Pairs with a wildcard -/

/-- What follows the last slash is looked for behind any other slash. -/
theorem subresource_slash (first last : String) :
    subresource (first ++ "/" ++ last) = if '/' ∈ last.toList then subresource last else last := by
  have hlist : (first ++ "/" ++ last).toList = first.toList ++ '/' :: last.toList := by
    simp [String.toList_append]
  have hslash : (first ++ "/" ++ last).toList.contains '/' = true := by
    rw [hlist]
    simp
  unfold subresource
  rw [hslash, if_pos rfl, hlist, List.reverse_append, List.reverse_cons, List.append_assoc,
    List.takeWhile_append]
  by_cases hlast : '/' ∈ last.toList
  · have hshort : (last.toList.reverse.takeWhile (· ≠ '/')).length ≠ last.toList.reverse.length := by
      intro hlength
      have hall := List.takeWhile_eq_self_iff.1 (List.takeWhile_prefix _ |>.eq_of_length hlength)
      simpa using hall '/' (List.mem_reverse.2 hlast)
    rw [if_neg hshort, if_pos hlast, if_pos (by simpa using hlast)]
  · have hall : last.toList.reverse.takeWhile (· ≠ '/') = last.toList.reverse := by
      rw [List.takeWhile_eq_self_iff]
      intro c hc
      simpa using fun h : c = '/' ↦ hlast (List.mem_reverse.1 (h ▸ hc))
    rw [if_pos (by rw [hall]), if_neg hlast]
    simp

theorem contains_escalatingOnWrite_iff {resource : String} :
    escalatingOnWrite.contains resource = true ↔
      ∃ sensitive ∈ sensitiveResources, resource = sensitive ∨ resource = sensitive ++ "/*" := by
  simp [escalatingOnWrite]

/-- Sensitive resources are named, so that none of them begins or ends with a wildcard. -/
theorem no_wildcard_of_sensitive {resource : String} (h : resource ∈ sensitiveResources) :
    resource.toList.head? ≠ some '*' ∧ resource.toList.getLast? ≠ some '*' := by
  revert resource
  decide

/-- The wildcard resource of a named group is written like the subresources of a resource. -/
theorem escalatesOnWrite_wildcard_resource (group : String) :
    escalatesOnWrite (group ++ "/" ++ "*") = true ↔ group ∈ sensitiveResources := by
  have hsub : escalatingSubresources.contains (subresource (group ++ "/" ++ "*")) = false := by
    rw [subresource_slash, if_neg (by decide)]
    decide
  rw [escalatesOnWrite, hsub, Bool.or_false, contains_escalatingOnWrite_iff]
  constructor
  · rintro ⟨sensitive, hmem, hsame | hsame⟩
    · have hlast := (no_wildcard_of_sensitive hmem).2
      rw [← hsame] at hlast
      simp [String.toList_append] at hlast
    · have hgroup : group = sensitive := by
        rw [← String.toList_inj] at hsame ⊢
        simpa [String.toList_append] using hsame
      rwa [hgroup]
  · intro hmem
    exact ⟨group, hmem, .inr (by rw [String.append_assoc]; rfl)⟩

/-- With the wildcard group only what opens a way into a container is changed. -/
theorem escalatesOnWrite_wildcard_group (resource : String) :
    escalatesOnWrite ("*" ++ "/" ++ resource) = true ↔
      resource ∈ escalatingSubresources ∨ subresource resource ∈ escalatingSubresources := by
  have hlisted : escalatingOnWrite.contains ("*" ++ "/" ++ resource) = false := by
    rw [Bool.eq_false_iff, ne_eq, contains_escalatingOnWrite_iff]
    rintro ⟨sensitive, hmem, hsame⟩
    have hfirst := (no_wildcard_of_sensitive hmem).1
    have hwildcard : ("*" ++ "/" ++ resource).toList.head? = some '*' := by
      simp [String.toList_append]
    rcases hsame with hsame | hsame
    · exact hfirst (hsame ▸ hwildcard)
    · rw [hsame, String.toList_append, List.head?_append, Option.or_eq_some_iff] at hwildcard
      rcases hwildcard with hwildcard | ⟨-, hslash⟩
      · exact hfirst hwildcard
      · exact absurd hslash (by decide)
  rw [escalatesOnWrite, hlisted, Bool.false_or, subresource_slash, List.contains_iff_mem]
  by_cases hslash : '/' ∈ resource.toList
  · have hlong : resource ∉ escalatingSubresources := by
      have hshort : ∀ name ∈ escalatingSubresources, '/' ∉ name.toList := by decide
      exact fun hmem ↦ hshort resource hmem hslash
    rw [if_pos hslash, or_iff_right hlong]
  · have hnone : subresource resource ∉ escalatingSubresources := by
      unfold subresource
      rw [if_neg (by simpa using hslash)]
      decide
    rw [if_neg hslash, or_iff_left hnone]

variable (rule : PolicyRule)

theorem eq_of_wildcard_end :
    ∀ resource ∈ alwaysEscalating, ['/', '*'] <:+ resource.toList → resource = "*/*" := by
  decide

theorem eq_of_wildcard_start :
    ∀ resource ∈ alwaysEscalating, ['*', '/'] <+: resource.toList → resource = "*/*" := by
  decide

theorem escalatesBy_wildcard_resource (group : String) :
    rule.EscalatesBy group "*" ↔
      group = "" ∨ group = "*" ∨ group ∈ sensitiveResources ∧ rule.Changes := by
  by_cases hcore : group = ""
  · subst hcore
    exact iff_of_true (.inl (by decide)) (.inl rfl)
  · have halways : alwaysEscalating.contains (group ++ "/" ++ "*") = true ↔ group = "*" := by
      rw [List.contains_iff_mem]
      constructor
      · intro hmem
        have hends : ['/', '*'] <:+ (group ++ "/" ++ "*").toList :=
          ⟨group.toList, by simp [String.toList_append]⟩
        have hsame := eq_of_wildcard_end _ hmem hends
        have hlist : group.toList ++ ['/', '*'] = ['*'] ++ ['/', '*'] := by
          simpa [← String.toList_inj, String.toList_append] using hsame
        exact String.toList_inj.1 (List.append_cancel_right hlist)
      · rintro rfl
        decide
    rw [EscalatesBy, groupResource, if_neg hcore, halways, escalatesOnWrite_wildcard_resource,
      or_iff_right hcore]

theorem escalatesBy_wildcard_group (resource : String) :
    rule.EscalatesBy "*" resource ↔ resource = "*" ∨
      (resource ∈ escalatingSubresources ∨ subresource resource ∈ escalatingSubresources) ∧
        rule.Changes := by
  have halways : alwaysEscalating.contains ("*" ++ "/" ++ resource) = true ↔ resource = "*" := by
    rw [List.contains_iff_mem]
    constructor
    · intro hmem
      have hbegins : ['*', '/'] <+: ("*" ++ "/" ++ resource).toList :=
        ⟨resource.toList, by simp [String.toList_append]⟩
      have hsame := eq_of_wildcard_start _ hmem hbegins
      rw [← String.toList_inj] at hsame ⊢
      simpa [String.toList_append] using hsame
    · rintro rfl
      decide
  rw [EscalatesBy, groupResource, if_neg (by decide), halways, escalatesOnWrite_wildcard_group]

theorem exists_escalatesBy_wildcard_resource :
    (∃ group ∈ rule.apiGroups, rule.EscalatesBy group "*") ↔
      "" ∈ rule.apiGroups ∨ "*" ∈ rule.apiGroups ∨
        (∃ group ∈ rule.apiGroups, group ∈ sensitiveResources) ∧ rule.Changes := by
  simp only [escalatesBy_wildcard_resource, and_or_left, exists_or, exists_eq_right, ← and_assoc,
    exists_and_right]

theorem exists_escalatesBy_wildcard_group :
    (∃ resource ∈ rule.resources, rule.EscalatesBy "*" resource) ↔
      "*" ∈ rule.resources ∨
        (∃ resource ∈ rule.resources,
          resource ∈ escalatingSubresources ∨ subresource resource ∈ escalatingSubresources) ∧
          rule.Changes := by
  simp only [escalatesBy_wildcard_group, and_or_left, exists_or, exists_eq_right, ← and_assoc,
    exists_and_right]

/-! ## Rules with a wildcard -/

/-- A wildcard in place of a verb takes no escalation away.  With one in place of a resource a rule
escalates exactly when it does without the resource or names the core group, the wildcard group or,
with a verb that changes things, a group that is called like a sensitive resource.  With one in place
of a group it escalates exactly when it does without the group or has the wildcard resource or, with a
verb that changes things, a resource that opens a way into a container. -/
theorem isEscalating_widened (rule : PolicyRule) (i : ℕ) :
    (rule.isEscalating = true → { rule with verbs := rule.verbs.set i "*" }.isEscalating = true) ∧
    (i < rule.resources.length →
      ({ rule with resources := rule.resources.set i "*" }.isEscalating = true ↔
        { rule with resources := rule.resources.eraseIdx i }.isEscalating = true ∨
          "" ∈ rule.apiGroups ∨ "*" ∈ rule.apiGroups ∨
          (∃ group ∈ rule.apiGroups, group ∈ sensitiveResources) ∧ rule.Changes)) ∧
    (i < rule.apiGroups.length →
      ({ rule with apiGroups := rule.apiGroups.set i "*" }.isEscalating = true ↔
        { rule with apiGroups := rule.apiGroups.eraseIdx i }.isEscalating = true ∨
          "*" ∈ rule.resources ∨
          (∃ resource ∈ rule.resources,
            resource ∈ escalatingSubresources ∨ subresource resource ∈ escalatingSubresources) ∧
            rule.Changes)) := by
  refine ⟨fun hrule ↦ ?_, fun hi ↦ ?_, fun hi ↦ ?_⟩
  · by_cases hi : i < rule.verbs.length
    · exact rule.isEscalating_wildcard_verb (List.mem_set hi "*") hrule
    · rwa [List.set_eq_of_length_le (not_lt.1 hi)]
  · rw [List.set_eq_take_append_cons_drop, if_pos hi, List.eraseIdx_eq_take_drop_succ,
      isEscalating_resources, exists_escalatesBy_wildcard_resource]
  · rw [List.set_eq_take_append_cons_drop, if_pos hi, List.eraseIdx_eq_take_drop_succ,
      isEscalating_apiGroups, exists_escalatesBy_wildcard_group]

/-- Deployments in one group and a way into containers in another: a wildcard in place of the first verb,
of the deployments or of their group takes nothing away. -/
theorem isEscalating_widened_deployments :
    let rule : PolicyRule :=
      { apiGroups := ["apps", ""], resources := ["deployments", "pods/exec"], verbs := ["get", "patch"] }
    rule.isEscalating = true ∧ 0 < rule.resources.length ∧ 0 < rule.apiGroups.length ∧
      { rule with verbs := ["*", "patch"] }.isEscalating = true ∧
      { rule with resources := ["*", "pods/exec"] }.isEscalating = true ∧
      { rule with apiGroups := ["*", ""] }.isEscalating = true := by
  intro rule
  have hrule : rule.isEscalating = true := by decide +kernel
  have hchanges : rule.Changes := ⟨"patch", by decide, by decide⟩
  have hopens : ∃ resource ∈ rule.resources,
      resource ∈ escalatingSubresources ∨ subresource resource ∈ escalatingSubresources := by
    decide +kernel
  obtain ⟨hverbs, hresources, hgroups⟩ := isEscalating_widened rule 0
  exact ⟨hrule, by decide, by decide, hverbs hrule, (hresources (by decide)).2 (.inr (.inl (by decide))),
    (hgroups (by decide)).2 (.inr (.inr ⟨hopens, hchanges⟩))⟩

/-- Deployments of one group are seen, and they are not seen any more when the group or the resource is
widened to the wildcard. -/
theorem wildcards_unseen :
    let rule : PolicyRule := { apiGroups := ["apps"], resources := ["deployments"], verbs := ["patch"] }
    rule.isEscalating = true ∧
      { rule with apiGroups := rule.apiGroups.set 0 "*" }.isEscalating = false ∧
      { rule with resources := rule.resources.set 0 "*" }.isEscalating = false := by
  decide +kernel

end ClusterAudit.PolicyRule
