import ClusterAudit.Escalation.Rule

/-!
# Rules by their grants

A rule lists pairs of a group and a resource and grants its verbs on them.  Whether it grants escalating
rights is decided by single pairs and single verbs: it does when one of its pairs escalates by itself or
one of its grants does.  So only the sets of pairs and of grants matter, however they are spread over
rules.  A rule without verbs grants nothing and may still escalate by a pair, which is why its grants
alone do not decide.
-/

namespace ClusterAudit.PolicyRule

/-! ## Pairs and grants -/

/-- The rule lists the group and the resource. -/
def ListsPair (rule : PolicyRule) (group resource : String) : Prop :=
  group ∈ rule.apiGroups ∧ resource ∈ rule.resources

/-- The rule grants the verb on the resource of the group. -/
def Grants (rule : PolicyRule) (group resource verb : String) : Prop :=
  rule.ListsPair group resource ∧ verb ∈ rule.verbs

/-- The rule with one group and one resource and without verbs. -/
def ofPair (group resource : String) : PolicyRule where
  apiGroups := [group]
  resources := [resource]

/-- The rule with one group, one resource and one verb. -/
def ofGrant (group resource verb : String) : PolicyRule where
  apiGroups := [group]
  resources := [resource]
  verbs := [verb]

/-- Whether a resource escalates with a verb that changes things. -/
def escalatesOnWrite (resource : String) : Bool :=
  escalatingOnWrite.contains resource || escalatingSubresources.contains (subresource resource)

theorem any_groupResources (rule : PolicyRule) (p : String → Bool) :
    rule.groupResources.any p = true ↔
      ∃ group resource, rule.ListsPair group resource ∧ p (groupResource group resource) = true := by
  simp only [groupResources, List.any_flatMap, List.any_map, List.any_eq_true, Function.comp_apply,
    ListsPair]
  constructor
  · rintro ⟨group, hgroup, resource, hresource, h⟩
    exact ⟨group, resource, ⟨hgroup, hresource⟩, h⟩
  · rintro ⟨group, resource, ⟨hgroup, hresource⟩, h⟩
    exact ⟨group, hgroup, resource, hresource, h⟩

/-- A rule escalates by one of its pairs, and if this is not enough, together with one of its verbs. -/
theorem isEscalating_iff (rule : PolicyRule) :
    rule.isEscalating = true ↔ ∃ group resource, rule.ListsPair group resource ∧
      (alwaysEscalating.contains (groupResource group resource) = true ∨
        escalatesOnWrite (groupResource group resource) = true ∧
          ∃ verb ∈ rule.verbs, escalatingVerbs.contains verb = true) := by
  have honWrite : (rule.groupResources.any escalatingOnWrite.contains ||
      rule.groupResources.any fun resource ↦ escalatingSubresources.contains (subresource resource)) =
        rule.groupResources.any escalatesOnWrite := by
    rw [Bool.eq_iff_iff]
    simp only [Bool.or_eq_true, List.any_eq_true, escalatesOnWrite]
    constructor
    · rintro (⟨resource, hmem, h⟩ | ⟨resource, hmem, h⟩)
      · exact ⟨resource, hmem, .inl h⟩
      · exact ⟨resource, hmem, .inr h⟩
    · rintro ⟨resource, hmem, h | h⟩
      · exact .inl ⟨resource, hmem, h⟩
      · exact .inr ⟨resource, hmem, h⟩
  rw [isEscalating, honWrite, Bool.or_eq_true, Bool.and_eq_true, any_groupResources,
    any_groupResources, List.any_eq_true]
  constructor
  · rintro (⟨group, resource, hpair, h⟩ | ⟨hverb, group, resource, hpair, h⟩)
    · exact ⟨group, resource, hpair, .inl h⟩
    · exact ⟨group, resource, hpair, .inr ⟨h, hverb⟩⟩
  · rintro ⟨group, resource, hpair, h | ⟨h, hverb⟩⟩
    · exact .inl ⟨group, resource, hpair, h⟩
    · exact .inr ⟨hverb, group, resource, hpair, h⟩

theorem listsPair_ofPair {group resource otherGroup otherResource : String} :
    (ofPair group resource).ListsPair otherGroup otherResource ↔
      otherGroup = group ∧ otherResource = resource := by
  simp [ListsPair, ofPair]

theorem listsPair_ofGrant {group resource verb otherGroup otherResource : String} :
    (ofGrant group resource verb).ListsPair otherGroup otherResource ↔
      otherGroup = group ∧ otherResource = resource := by
  simp [ListsPair, ofGrant]

theorem isEscalating_ofPair (group resource : String) :
    (ofPair group resource).isEscalating = true ↔
      alwaysEscalating.contains (groupResource group resource) = true := by
  simp only [isEscalating_iff, listsPair_ofPair]
  constructor
  · rintro ⟨_, _, ⟨rfl, rfl⟩, h | ⟨-, verb, hverb, -⟩⟩
    · exact h
    · cases hverb
  · intro h
    exact ⟨group, resource, ⟨rfl, rfl⟩, .inl h⟩

theorem isEscalating_ofGrant (group resource verb : String) :
    (ofGrant group resource verb).isEscalating = true ↔
      alwaysEscalating.contains (groupResource group resource) = true ∨
        escalatesOnWrite (groupResource group resource) = true ∧ escalatingVerbs.contains verb = true := by
  simp only [isEscalating_iff, listsPair_ofGrant]
  constructor
  · rintro ⟨_, _, ⟨rfl, rfl⟩, h | ⟨h, other, hother, hverb⟩⟩
    · exact .inl h
    · rw [List.mem_singleton.1 hother] at hverb
      exact .inr ⟨h, hverb⟩
  · rintro (h | ⟨h, hverb⟩)
    · exact ⟨group, resource, ⟨rfl, rfl⟩, .inl h⟩
    · exact ⟨group, resource, ⟨rfl, rfl⟩, .inr ⟨h, verb, List.mem_cons_self, hverb⟩⟩

/-- A rule escalates when one of its pairs or one of its grants does. -/
theorem isEscalating_iff_pair_or_grant (rule : PolicyRule) :
    rule.isEscalating = true ↔
      (∃ group resource, rule.ListsPair group resource ∧
        (ofPair group resource).isEscalating = true) ∨
      ∃ group resource verb, rule.Grants group resource verb ∧
        (ofGrant group resource verb).isEscalating = true := by
  simp only [isEscalating_ofPair, isEscalating_ofGrant]
  rw [isEscalating_iff]
  constructor
  · rintro ⟨group, resource, hpair, h | ⟨h, verb, hmem, hverb⟩⟩
    · exact .inl ⟨group, resource, hpair, h⟩
    · exact .inr ⟨group, resource, verb, ⟨hpair, hmem⟩, .inr ⟨h, hverb⟩⟩
  · rintro (⟨group, resource, hpair, h⟩ | ⟨group, resource, verb, ⟨hpair, hmem⟩, h | ⟨h, hverb⟩⟩)
    · exact ⟨group, resource, hpair, .inl h⟩
    · exact ⟨group, resource, hpair, .inl h⟩
    · exact ⟨group, resource, hpair, .inr ⟨h, verb, hmem, hverb⟩⟩

/-! ## Parts of a rule -/

/-- The rules grant together what the rule grants. -/
def GrantedBy (rule : PolicyRule) (parts : List PolicyRule) : Prop :=
  ∀ group resource verb,
    rule.Grants group resource verb ↔ ∃ part ∈ parts, part.Grants group resource verb

/-- The rules list together the pairs that the rule lists. -/
def ListedBy (rule : PolicyRule) (parts : List PolicyRule) : Prop :=
  ∀ group resource, rule.ListsPair group resource ↔ ∃ part ∈ parts, part.ListsPair group resource

variable {rule : PolicyRule} {parts : List PolicyRule}

theorem exists_grant_iff (hverbs : rule.verbs ≠ []) (group resource : String) :
    (∃ verb, rule.Grants group resource verb) ↔ rule.ListsPair group resource := by
  constructor
  · rintro ⟨verb, hpair, -⟩
    exact hpair
  · intro hpair
    obtain ⟨verb, hverb⟩ := List.exists_mem_of_ne_nil rule.verbs hverbs
    exact ⟨verb, hpair, hverb⟩

/-- Where verbs are granted, the grants give the pairs. -/
theorem GrantedBy.listedBy (h : rule.GrantedBy parts) (hrule : rule.verbs ≠ [])
    (hparts : ∀ part ∈ parts, part.verbs ≠ []) : rule.ListedBy parts := by
  intro group resource
  calc rule.ListsPair group resource
      ↔ ∃ verb, rule.Grants group resource verb := (exists_grant_iff hrule group resource).symm
    _ ↔ ∃ verb, ∃ part ∈ parts, part.Grants group resource verb := exists_congr (h group resource)
    _ ↔ ∃ part ∈ parts, ∃ verb, part.Grants group resource verb := by
      constructor
      · rintro ⟨verb, part, hpart, hgrant⟩
        exact ⟨part, hpart, verb, hgrant⟩
      · rintro ⟨part, hpart, verb, hgrant⟩
        exact ⟨verb, part, hpart, hgrant⟩
    _ ↔ ∃ part ∈ parts, part.ListsPair group resource :=
      exists_congr fun part ↦ and_congr_right fun hpart ↦
        exists_grant_iff (hparts part hpart) group resource

/-- Rules that list the same pairs and grant the same together escalate as the rule does. -/
theorem isEscalating_eq_any (hgrants : rule.GrantedBy parts) (hpairs : rule.ListedBy parts) :
    rule.isEscalating = parts.any isEscalating := by
  rw [Bool.eq_iff_iff, List.any_eq_true, isEscalating_iff_pair_or_grant]
  constructor
  · rintro (⟨group, resource, hpair, h⟩ | ⟨group, resource, verb, hgrant, h⟩)
    · obtain ⟨part, hpart, hpair⟩ := (hpairs group resource).1 hpair
      exact ⟨part, hpart, part.isEscalating_iff_pair_or_grant.2 (.inl ⟨group, resource, hpair, h⟩)⟩
    · obtain ⟨part, hpart, hgrant⟩ := (hgrants group resource verb).1 hgrant
      exact ⟨part, hpart,
        part.isEscalating_iff_pair_or_grant.2 (.inr ⟨group, resource, verb, hgrant, h⟩)⟩
  · rintro ⟨part, hpart, hescalating⟩
    rcases part.isEscalating_iff_pair_or_grant.1 hescalating with
      ⟨group, resource, hpair, h⟩ | ⟨group, resource, verb, hgrant, h⟩
    · exact .inl ⟨group, resource, (hpairs group resource).2 ⟨part, hpart, hpair⟩, h⟩
    · exact .inr ⟨group, resource, verb, (hgrants group resource verb).2 ⟨part, hpart, hgrant⟩, h⟩

/-- Further groups, resources and verbs take no escalating right away. -/
theorem isEscalating_mono {other : PolicyRule} (hgroups : rule.apiGroups ⊆ other.apiGroups)
    (hresources : rule.resources ⊆ other.resources) (hverbs : rule.verbs ⊆ other.verbs)
    (h : rule.isEscalating = true) : other.isEscalating = true := by
  rw [isEscalating_iff] at h ⊢
  obtain ⟨group, resource, ⟨hgroup, hresource⟩, halways | ⟨honWrite, verb, hverb, hescalating⟩⟩ := h
  · exact ⟨group, resource, ⟨hgroups hgroup, hresources hresource⟩, .inl halways⟩
  · exact ⟨group, resource, ⟨hgroups hgroup, hresources hresource⟩,
      .inr ⟨honWrite, verb, hverbs hverb, hescalating⟩⟩

/-- Whether a rule escalates is decided by its single pairs and its single grants, whatever its
resource names and its URLs are.  So the order of its lists and repetitions in them do not matter, nor
does a split into rules that grant the same and list the same pairs, as they do when verbs are
granted throughout; and a rule that lists more escalates as well. -/
theorem isEscalating_by_grants (rule : PolicyRule) :
    (rule.isEscalating = true ↔ ∃ group ∈ rule.apiGroups, ∃ resource ∈ rule.resources,
      (ofPair group resource).isEscalating = true ∨
        ∃ verb ∈ rule.verbs, (ofGrant group resource verb).isEscalating = true) ∧
    (∀ resourceNames nonResourceUrls : List String,
      { rule with resourceNames, nonResourceUrls }.isEscalating = rule.isEscalating) ∧
    (∀ other : PolicyRule, (∀ group, group ∈ other.apiGroups ↔ group ∈ rule.apiGroups) →
      (∀ resource, resource ∈ other.resources ↔ resource ∈ rule.resources) →
      (∀ verb, verb ∈ other.verbs ↔ verb ∈ rule.verbs) →
        other.isEscalating = rule.isEscalating) ∧
    (∀ parts : List PolicyRule, rule.GrantedBy parts →
      rule.ListedBy parts ∨ rule.verbs ≠ [] ∧ (∀ part ∈ parts, part.verbs ≠ []) →
        rule.isEscalating = parts.any isEscalating) ∧
    (∀ other : PolicyRule, rule.apiGroups ⊆ other.apiGroups → rule.resources ⊆ other.resources →
      rule.verbs ⊆ other.verbs → rule.isEscalating = true → other.isEscalating = true) := by
  refine ⟨?_, ?_, ?_, ?_, ?_⟩
  · rw [isEscalating_iff_pair_or_grant]
    constructor
    · rintro (⟨group, resource, ⟨hgroup, hresource⟩, h⟩ |
        ⟨group, resource, verb, ⟨⟨hgroup, hresource⟩, hverb⟩, h⟩)
      · exact ⟨group, hgroup, resource, hresource, .inl h⟩
      · exact ⟨group, hgroup, resource, hresource, .inr ⟨verb, hverb, h⟩⟩
    · rintro ⟨group, hgroup, resource, hresource, h | ⟨verb, hverb, h⟩⟩
      · exact .inl ⟨group, resource, ⟨hgroup, hresource⟩, h⟩
      · exact .inr ⟨group, resource, verb, ⟨⟨hgroup, hresource⟩, hverb⟩, h⟩
  · intro resourceNames nonResourceUrls
    rfl
  · intro other hgroups hresources hverbs
    rw [Bool.eq_iff_iff]
    constructor
    · exact isEscalating_mono (fun group ↦ (hgroups group).1) (fun resource ↦ (hresources resource).1)
        fun verb ↦ (hverbs verb).1
    · exact isEscalating_mono (fun group ↦ (hgroups group).2) (fun resource ↦ (hresources resource).2)
        fun verb ↦ (hverbs verb).2
  · rintro parts hgrants (hpairs | ⟨hrule, hparts⟩)
    · exact isEscalating_eq_any hgrants hpairs
    · exact isEscalating_eq_any hgrants (hgrants.listedBy hrule hparts)
  · intro other hgroups hresources hverbs h
    exact isEscalating_mono hgroups hresources hverbs h

/-- Verbs on two resources of two groups, split by the verbs, with a repetition: one part reads and the
other one writes. -/
theorem isEscalating_by_grants_split :
    let rule : PolicyRule :=
      { apiGroups := ["", "apps"], resources := ["jobs", "deployments"], verbs := ["get", "patch"] }
    let reading := { rule with verbs := ["get"] }
    let writing := { rule with resources := ["deployments", "jobs", "jobs"], verbs := ["patch"] }
    rule.GrantedBy [reading, writing] ∧ rule.isEscalating = [reading, writing].any isEscalating ∧
      { rule with verbs := ["patch", "get", "get"] }.isEscalating = rule.isEscalating ∧
      writing.isEscalating = true ∧ rule.isEscalating = true ∧ reading.isEscalating = false := by
  intro rule reading writing
  have hgrants : rule.GrantedBy [reading, writing] := by
    intro group resource verb
    simp [Grants, ListsPair, rule, reading, writing]
    grind
  have hwriting : writing.isEscalating = true := by decide +kernel
  obtain ⟨-, -, hsame, hsplit, -⟩ := isEscalating_by_grants rule
  obtain ⟨-, -, -, -, hmore⟩ := isEscalating_by_grants writing
  refine ⟨hgrants, hsplit _ hgrants (.inr ⟨by decide, by decide⟩), hsame _ ?_ ?_ ?_, hwriting,
    hmore rule ?_ ?_ ?_ hwriting, by decide +kernel⟩
  · simp
  · simp
  · simp [rule, or_comm]
  · decide
  · decide
  · decide

/-- Without verbs nothing is granted, so the two halves of this rule grant what it does; but only the
whole of it lists the pair that escalates. -/
theorem split_without_verbs :
    let rule : PolicyRule := { apiGroups := [""], resources := ["secrets"] }
    let parts : List PolicyRule := [{ apiGroups := [""] }, { resources := ["secrets"] }]
    rule.GrantedBy parts ∧ parts.flatMap (·.apiGroups) = rule.apiGroups ∧
      parts.flatMap (·.resources) = rule.resources ∧ parts.flatMap (·.verbs) = rule.verbs ∧
      rule.isEscalating = true ∧ parts.any isEscalating = false := by
  intro rule parts
  refine ⟨?_, rfl, rfl, rfl, by decide +kernel, by decide +kernel⟩
  intro group resource verb
  simp [Grants, rule, parts]

end ClusterAudit.PolicyRule
