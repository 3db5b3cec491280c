import ClusterAudit.Proofs.Manifest.Shape

/-!
# Objects of the interface

The objects of each primary kind have fields of their own.  Whatever is missing from an object with the
fields of its kind, it can be read as an asset, and this asset has all that later stages rely on: a name
that is a key and can be written, like all that is shown of the asset, labels and affinity values that
can be compared as integers, keys of labels that can be looked up, the name of a node that can be looked
up, and a user strategy that can be put into words.
-/

namespace ClusterAudit

open Manifest Shape Traversal

/-! ## Fields -/

namespace Manifest

def metadataFields : Fields := [("name", text), ("namespace", text)]

def accountFields : Fields :=
  [("metadata", record metadataFields), ("automountServiceAccountToken", flag)]

def taintFields : Fields := [("key", text), ("value", text), ("effect", text)]

def nodeFields : Fields :=
  [("metadata", record (("labels", mapOf label) :: metadataFields)),
    ("spec", record [("taints", listOf (record taintFields))])]

def expressionFields : Fields := [("key", text), ("operator", text), ("values", listOf label)]

def termFields : Fields := [("matchExpressions", listOf (record expressionFields))]

def requiredFields : Fields := [("nodeSelectorTerms", listOf (record termFields))]

def nodeAffinityFields : Fields :=
  [("requiredDuringSchedulingIgnoredDuringExecution", record requiredFields)]

def affinityFields : Fields := [("nodeAffinity", record nodeAffinityFields)]

def tolerationFields : Fields :=
  [("key", text), ("operator", text), ("value", text), ("effect", text)]

def mountFields : Fields := [("name", text), ("mountPath", text), ("readOnly", flag)]

def containerFields : Fields :=
  [("name", text), ("image", text), ("volumeMounts", listOf (record mountFields))]

def podSpecFields : Fields :=
  [("nodeSelector", mapOf text),
    ("affinity", record affinityFields),
    ("tolerations", listOf (record tolerationFields)),
    ("containers", listOf (record containerFields)),
    ("serviceAccountName", text), ("serviceAccount", text), ("nodeName", text)]

def podFields : Fields :=
  [("metadata", record metadataFields), ("spec", record podSpecFields),
    ("status", record [("podIP", text)])]

def ruleFields : Fields :=
  [("apiGroups", listOf text), ("resources", listOf text), ("verbs", listOf text),
    ("resourceNames", listOf text), ("nonResourceURLs", listOf text)]

def roleFields : Fields :=
  [("metadata", record metadataFields), ("rules", listOf (record ruleFields))]

def roleRefFields : Fields := [("apiGroup", text), ("kind", text), ("name", text)]

def subjectFields : Fields :=
  [("kind", text), ("name", text), ("namespace", text), ("apiGroup", text)]

def bindingFields : Fields :=
  [("metadata", record metadataFields), ("roleRef", record roleRefFields),
    ("subjects", listOf (record subjectFields))]

def rangeFields : Fields := [("min", integer), ("max", integer)]

def strategyFields : Fields := [("rule", text), ("ranges", listOf (record rangeFields))]

def policySpecFields : Fields :=
  [("privileged", flag), ("hostPID", flag), ("hostIPC", flag), ("hostNetwork", flag),
    ("allowPrivilegeEscalation", flag), ("allowedCapabilities", listOf text),
    ("requiredDropCapabilities", listOf text), ("runAsUser", record strategyFields)]

def policyFields : Fields :=
  [("metadata", record metadataFields), ("spec", record policySpecFields)]

end Manifest

def AssetKind.fields : AssetKind → Fields
  | serviceAccount => accountFields
  | node => nodeFields
  | pod => podFields
  | role | clusterRole => roleFields
  | roleBinding | clusterRoleBinding => bindingFields
  | podSecurityPolicy => policyFields
  | schedulingPair | escalationDependency => []

/-! ## Usable assets -/

structure Role.Usable (role : Role) : Prop where
  name : role.name.IsName
  ns : role.ns.IsName

structure Subject.Usable (subject : Subject) : Prop where
  kind : subject.kind.IsName
  name : subject.name.IsName
  ns : subject.ns.IsName

structure RoleBinding.Usable (binding : RoleBinding) : Prop where
  name : binding.name.IsName
  ns : binding.ns.IsName
  roleName : binding.roleRef.name.IsName
  subjects : ∀ subject ∈ binding.subjects, subject.Usable

structure Taint.Usable (taint : Taint) : Prop where
  value : taint.value.IsName
  effect : taint.effect.IsName

structure MatchExpression.Usable (expression : MatchExpression) : Prop where
  key : expression.key.IsName
  operator : expression.operator.IsName
  values : ∀ value ∈ expression.values, label value = true

structure Node.Usable (node : Node) : Prop where
  name : node.name.IsName
  labels : ∀ entry ∈ node.labels, label entry.2 = true
  taints : ∀ taint ∈ node.taints, taint.Usable

structure VolumeMount.Usable (mount : VolumeMount) : Prop where
  name : mount.name.IsName
  mountPath : mount.mountPath.IsName

structure Container.Usable (container : Container) : Prop where
  name : container.name.IsName
  image : container.image.IsName
  volumeMounts : ∀ mount ∈ container.volumeMounts, mount.Usable

structure Pod.Usable (pod : Pod) : Prop where
  name : pod.name.IsName
  ns : pod.ns.IsName
  selector : ∀ entry ∈ pod.nodeSelector, entry.2.IsName
  expressions : ∀ term ∈ pod.affinityTerms, ∀ expression ∈ term.matchExpressions, expression.Usable
  account : pod.serviceAccountName.IsName
  nodeName : pod.nodeName.IsName
  podIP : pod.podIP.IsName
  containers : ∀ container ∈ pod.containers, container.Usable

structure UserStrategy.Usable (strategy : UserStrategy) : Prop where
  rule : text strategy.rule = true
  ranges : ∀ range ∈ strategy.ranges, Text.isWritable range.1 ∧ Text.isWritable range.2

structure PodSecurityPolicy.Usable (policy : PodSecurityPolicy) : Prop where
  name : policy.name.IsName
  runAsUser : ∀ strategy ∈ policy.runAsUser, strategy.Usable

namespace Asset

/-- What later stages rely on in an asset. -/
def Usable : Asset → Prop
  | serviceAccount account => account.name.IsName
  | node n => n.Usable
  | pod p => p.Usable
  | role r => r.Usable
  | binding b => b.Usable
  | podSecurityPolicy policy => policy.Usable
  | schedulingPair pair => (∀ n ∈ pair.node, n.Usable) ∧ ∀ p ∈ pair.pod, p.Usable
  | escalationDependency dependency => dependency.node.Usable ∧ dependency.pod.Usable

end Asset

theorem RoleScope.isName_identity (scope : RoleScope) (ns : Value) {name : Value} (h : name.IsName) :
    (scope.identity ns name).IsName := by
  cases scope with
  | namespaced => exact .text _
  | clusterWide => exact h

theorem Pod.Usable.nameParts {pod : Pod} (h : pod.Usable) :
    ∀ part ∈ pod.nameParts, part.isWritable = true :=
  List.forall_mem_cons.2 ⟨h.ns.isWritable, List.forall_mem_singleton.2 h.name.isWritable⟩

/-- A usable asset has a name. -/
theorem Asset.Usable.hasName {asset : Asset} (h : asset.Usable) : asset.HasName := by
  rw [Asset.hasName_iff]
  cases asset with
  | serviceAccount account => exact ⟨List.forall_mem_nil _, h⟩
  | node n => exact ⟨List.forall_mem_nil _, Node.Usable.name h⟩
  | podSecurityPolicy policy => exact ⟨List.forall_mem_nil _, PodSecurityPolicy.Usable.name h⟩
  | pod p => exact ⟨Pod.Usable.nameParts h, .text _⟩
  | role r =>
    have husable : r.Usable := h
    exact ⟨RoleScope.forall_identityParts (fun _ ↦ husable.ns) husable.name,
      r.scope.isName_identity r.ns husable.name⟩
  | binding b =>
    have husable : b.Usable := h
    exact ⟨RoleScope.forall_identityParts (fun _ ↦ husable.ns) husable.name,
      b.scope.isName_identity b.ns husable.name⟩
  | schedulingPair pair =>
    refine ⟨List.forall_mem_append.2 ⟨?_, ?_⟩, .text _⟩
    · intro part hpart
      obtain ⟨n, hnode, rfl⟩ := Option.map_eq_some_iff.1 (Option.mem_toList.1 hpart)
      exact (h.1 n hnode).name.isWritable
    · cases hpod : pair.pod with
      | none => exact List.forall_mem_nil _
      | some p => exact (h.2 p hpod).nameParts
  | escalationDependency dependency =>
    exact ⟨List.forall_mem_cons.2 ⟨h.1.name.isWritable, h.2.nameParts⟩, .text _⟩

/-! ## Reading objects -/

variable {doc : Value} {fields : Fields}

namespace Manifest

theorem metadata_yields (inner : Fields) (h : record fields doc = true)
    (hfield : ("metadata", record inner) ∈ fields) :
    Yields (fun header ↦ record inner header = true) (metadata doc) :=
  record_yields inner (orEmptyMap_record (.inr h)) hfield

theorem specification_yields (inner : Fields) (h : record fields doc = true)
    (hfield : ("spec", record inner) ∈ fields) :
    Yields (fun spec ↦ record inner spec = true) (specification doc) :=
  record_yields inner (orEmptyMap_record (.inr h)) hfield

end Manifest

theorem ServiceAccount.ofManifest_yields (h : record accountFields doc = true) :
    Yields (fun account ↦ account.name.IsName) (ofManifest doc) := by
  unfold ofManifest
  apply (metadata_yields metadataFields h (by simp [accountFields])).bind
  intro header hheader
  apply (name_yields hheader (by simp [metadataFields]) (.text "")).bind
  intro name hname
  apply (fieldD_total hheader "namespace" .null).bind
  intro ns _
  apply (fieldD_total (orEmptyMap_record (.inr h)) "automountServiceAccountToken" .null).bind
  intro token _
  exact .pure hname

/-! ### Roles and bindings -/

theorem PolicyRule.ofManifest_yields (h : record ruleFields doc = true) :
    Yields (fun _ ↦ True) (ofManifest doc) := by
  have hrule : record ruleFields doc.orEmptyMap = true := orEmptyMap_record (.inr h)
  unfold ofManifest
  apply (fieldTexts_total hrule (by simp [ruleFields])).bind
  intro apiGroups _
  apply (fieldTexts_total hrule (by simp [ruleFields])).bind
  intro resources _
  apply (fieldTexts_total hrule (by simp [ruleFields])).bind
  intro verbs _
  apply (fieldTexts_total hrule (by simp [ruleFields])).bind
  intro resourceNames _
  apply (fieldTexts_total hrule (by simp [ruleFields])).bind
  intro nonResourceUrls _
  exact .pure trivial

theorem Role.ofManifest_yields (scope : RoleScope) (h : record roleFields doc = true) :
    Yields Usable (ofManifest scope doc) := by
  unfold ofManifest
  apply (metadata_yields metadataFields h (by simp [roleFields])).bind
  intro header hheader
  apply (name_yields hheader (by simp [metadataFields]) (.text "")).bind
  intro name hname
  apply (name_yields hheader (by simp [metadataFields]) .null).bind
  intro ns hns
  refine elements_bind (record ruleFields) (orEmptyMap_record (.inr h)) (by simp [roleFields])
    (fun _ ↦ PolicyRule.ofManifest_yields) fun rules _ ↦ ?_
  exact .pure ⟨hname, hns⟩

theorem Subject.ofManifest_yields (h : record subjectFields doc = true) :
    Yields Usable (ofManifest doc) := by
  unfold ofManifest
  apply (name_yields h (by simp [subjectFields]) (.text "")).bind
  intro kind hkind
  apply (name_yields h (by simp [subjectFields]) .null).bind
  intro name hname
  apply (name_yields h (by simp [subjectFields]) .null).bind
  intro ns hns
  apply (fieldD_total h "apiGroup" (.text "")).bind
  intro apiGroup _
  exact .pure ⟨hkind, hname, hns⟩

theorem RoleBinding.ofManifest_yields (scope : RoleScope) (h : record bindingFields doc = true) :
    Yields Usable (ofManifest scope doc) := by
  have hdoc : record bindingFields doc.orEmptyMap = true := orEmptyMap_record (.inr h)
  unfold ofManifest
  apply (metadata_yields metadataFields h (by simp [bindingFields])).bind
  intro header hheader
  apply (field_yields (record roleRefFields) hdoc (by simp [bindingFields])).bind
  intro given hgiven
  have href : record roleRefFields given.orEmptyMap = true := orEmptyMap_record hgiven
  refine elements_bind (record subjectFields) hdoc (by simp [bindingFields])
    (fun _ ↦ Subject.ofManifest_yields) fun subjects hsubjects ↦ ?_
  apply (name_yields hheader (by simp [metadataFields]) (.text "")).bind
  intro name hname
  apply (name_yields hheader (by simp [metadataFields]) .null).bind
  intro ns hns
  apply (fieldD_total href "apiGroup" (.text "")).bind
  intro apiGroup _
  apply (fieldD_total href "kind" (.text "")).bind
  intro kind _
  apply (name_yields href (by simp [roleRefFields]) (.text "")).bind
  intro reference hreference
  exact .pure ⟨hname, hns, hreference, hsubjects⟩

/-! ### Nodes and pods -/

theorem Taint.ofManifest_yields (h : record taintFields doc = true) :
    Yields Usable (ofManifest doc) := by
  unfold ofManifest
  apply (fieldD_total h "key" (.text "")).bind
  intro key _
  apply (name_yields h (by simp [taintFields]) .null).bind
  intro value hvalue
  apply (name_yields h (by simp [taintFields]) (.text "")).bind
  intro effect heffect
  exact .pure ⟨hvalue, heffect⟩

/-- A map that is absent or has values of a shape. -/
theorem Manifest.exists_of_orEmptyMap {v : Value} {shape : Shape} (h : v = .null ∨ mapOf shape v = true) :
    ∃ entries, v.orEmptyMap = .map entries ∧
      ∀ entry ∈ entries, text (.scalar entry.1) = true ∧ shape entry.2 = true := by
  rcases h with rfl | h
  · exact ⟨[], rfl, List.forall_mem_nil _⟩
  · obtain ⟨entries, rfl, hentries⟩ := exists_of_mapOf h
    cases entries with
    | nil => exact ⟨[], rfl, hentries⟩
    | cons entry rest => exact ⟨entry :: rest, rfl, hentries⟩

theorem Node.ofManifest_yields (h : record nodeFields doc = true) : Yields Usable (ofManifest doc) := by
  unfold ofManifest
  apply (metadata_yields (("labels", mapOf label) :: metadataFields) h (by simp [nodeFields])).bind
  intro header hheader
  apply (specification_yields [("taints", listOf (record taintFields))] h (by simp [nodeFields])).bind
  intro spec hspec
  refine elements_bind (record taintFields) hspec (by simp)
    (fun _ ↦ Taint.ofManifest_yields) fun taints htaints ↦ ?_
  apply (name_yields hheader (by simp [metadataFields]) (.text "")).bind
  intro name hname
  apply (field_yields (mapOf label) hheader (by simp)).bind
  intro given hgiven
  obtain ⟨labels, hmap, hlabels⟩ := exists_of_orEmptyMap hgiven
  rw [hmap]
  exact .pure ⟨hname, fun entry hentry ↦ (hlabels entry hentry).2, htaints⟩

theorem Toleration.ofManifest_yields (h : record tolerationFields doc = true) :
    Yields (fun _ ↦ True) (ofManifest doc) := by
  unfold ofManifest
  apply (fieldD_total h "key" .null).bind
  intro key _
  apply (fieldD_total h "operator" .null).bind
  intro operator _
  apply (fieldD_total h "value" .null).bind
  intro value _
  apply (fieldD_total h "effect" .null).bind
  intro effect _
  exact .pure trivial

theorem MatchExpression.ofManifest_yields (h : record expressionFields doc = true) :
    Yields Usable (ofManifest doc) := by
  unfold ofManifest
  apply (name_yields h (by simp [expressionFields]) (.text "")).bind
  intro key hkey
  apply (name_yields h (by simp [expressionFields]) (.text "")).bind
  intro operator hoperator
  apply (labels_yield h (by simp [expressionFields])).bind
  intro texts htexts
  exact .pure ⟨hkey, hoperator, List.forall_mem_map.2 htexts⟩

theorem SelectorTerm.ofManifest_yields (h : record termFields doc = true) :
    Yields (fun term ↦ ∀ expression ∈ term.matchExpressions, expression.Usable) (ofManifest doc) := by
  unfold ofManifest
  refine elements_bind (record expressionFields) h (by simp [termFields])
    (fun _ ↦ MatchExpression.ofManifest_yields) fun expressions hexpressions ↦ ?_
  exact .pure hexpressions

theorem VolumeMount.ofManifest_yields (h : record mountFields doc = true) :
    Yields Usable (ofManifest doc) := by
  unfold ofManifest
  apply (name_yields h (by simp [mountFields]) (.text "")).bind
  intro name hname
  apply (name_yields h (by simp [mountFields]) (.text "")).bind
  intro mountPath hmountPath
  apply (fieldD_total h "readOnly" .null).bind
  intro readOnly _
  exact .pure ⟨hname, hmountPath⟩

theorem Container.ofManifest_yields (h : record containerFields doc = true) :
    Yields Usable (ofManifest doc) := by
  unfold ofManifest
  apply (name_yields h (by simp [containerFields]) (.text "")).bind
  intro name hname
  apply (name_yields h (by simp [containerFields]) .null).bind
  intro image himage
  refine elements_bind (record mountFields) h (by simp [containerFields])
    (fun _ ↦ VolumeMount.ofManifest_yields) fun mounts hmounts ↦ ?_
  exact .pure ⟨hname, himage, hmounts⟩

namespace Pod

variable {spec : Value} (h : record podSpecFields spec = true)

include h

theorem requiredAffinity_yields :
    Yields (fun required ↦ record requiredFields required = true) (requiredAffinity spec) := by
  unfold requiredAffinity
  apply (field_yields (record affinityFields) h (by simp [podSpecFields])).bind
  intro affinity haffinity
  apply (field_yields (record nodeAffinityFields) (orEmptyMap_record haffinity)
    (by simp [affinityFields])).bind
  intro nodeAffinity hnodeAffinity
  exact record_yields requiredFields (orEmptyMap_record hnodeAffinity) (by simp [nodeAffinityFields])

theorem readTolerations_yields : Yields (fun _ ↦ True) (readTolerations spec) := by
  unfold readTolerations
  apply (field_yields (listOf (record tolerationFields)) h (by simp [podSpecFields])).bind
  rintro given (rfl | hgiven)
  · exact .pure trivial
  · obtain ⟨docs, rfl, hdocs⟩ := exists_of_listOf hgiven
    have hread : Yields (fun _ ↦ True) (docs.mapM Toleration.ofManifest) :=
      (Yields.mapM fun toleration htoleration ↦
        Toleration.ofManifest_yields (hdocs toleration htoleration)).mono fun _ _ ↦ trivial
    exact hread.bind fun _ _ ↦ .pure trivial

theorem readNodeSelector_yields :
    Yields (fun selector ↦ ∀ entry ∈ selector, entry.2.IsName) (readNodeSelector spec) := by
  unfold readNodeSelector
  apply (field_yields (mapOf text) h (by simp [podSpecFields])).bind
  intro given hgiven
  obtain ⟨entries, hmap, hentries⟩ := exists_of_orEmptyMap hgiven
  rw [hmap]
  have htexts : Yields (fun texts : List Entry ↦ ∀ entry ∈ texts, True ∧ entry.2.IsName)
      (entries.mapM selectorEntry) := by
    apply Yields.mapM
    intro entry hentry
    obtain ⟨hkey, hvalue⟩ := hentries entry hentry
    rw [selectorEntry, (isName_of_text hkey).display, (isName_of_text hvalue).display]
    exact .pure ⟨trivial, .text _⟩
  exact htexts.bind fun texts hall ↦
    .pure fun entry hentry ↦ (forall_mem_putAll (p := fun _ ↦ True) (q := Value.IsName)
      (List.forall_mem_nil _) hall entry hentry).2

end Pod

theorem Pod.ofManifest_yields (h : record podFields doc = true) : Yields Usable (ofManifest doc) := by
  unfold ofManifest
  apply (metadata_yields metadataFields h (by simp [podFields])).bind
  intro header hheader
  apply (specification_yields podSpecFields h (by simp [podFields])).bind
  intro spec hspec
  apply (field_yields (record [("podIP", text)]) (orEmptyMap_record (.inr h))
    (by simp [podFields])).bind
  intro given hgiven
  apply (requiredAffinity_yields hspec).bind
  intro required hrequired
  refine elements_bind (record termFields) hrequired (by simp [requiredFields])
    (fun _ ↦ SelectorTerm.ofManifest_yields) fun terms hterms ↦ ?_
  apply (readTolerations_yields hspec).bind
  intro tolerations _
  refine elements_bind (record containerFields) hspec (by simp [podSpecFields])
    (fun _ ↦ Container.ofManifest_yields) fun containers hcontainers ↦ ?_
  apply (name_yields hspec (by simp [podSpecFields]) .null).bind
  intro account haccount
  apply (name_yields hspec (by simp [podSpecFields]) .null).bind
  intro formerAccount hformerAccount
  apply (name_yields hheader (by simp [metadataFields]) (.text "")).bind
  intro name hname
  apply (name_yields hheader (by simp [metadataFields]) .null).bind
  intro ns hns
  apply (readNodeSelector_yields hspec).bind
  intro selector hselector
  apply (name_yields hspec (by simp [podSpecFields]) .null).bind
  intro nodeName hnodeName
  apply (name_yields (orEmptyMap_record hgiven) (by simp) .null).bind
  intro podIP hpodIP
  exact .pure {
    name := hname
    ns := hns
    selector := hselector
    expressions := hterms
    account := by split <;> assumption
    nodeName := hnodeName
    podIP := hpodIP
    containers := hcontainers }

/-! ### Policies -/

theorem UserStrategy.rangeBound_yields {v : Value} (h : v = .null ∨ integer v = true) :
    Yields (fun n ↦ Text.isWritable n = true) (rangeBound v) := by
  have hdigit : (0 : Int).natAbs < Nat.pow 10 1 := by decide
  have hzero : Text.isWritable 0 = true := Text.isWritable_of_lt hdigit (by decide)
  rcases h with rfl | h
  · exact ⟨0, rfl, hzero⟩
  · obtain ⟨n, rfl, hn⟩ := exists_of_integer h
    unfold rangeBound
    split
    · exact ⟨n, rfl, hn⟩
    · exact ⟨0, rfl, hzero⟩

theorem UserStrategy.rangeOfManifest_yields (h : record rangeFields doc = true) :
    Yields (fun range ↦ Text.isWritable range.1 = true ∧ Text.isWritable range.2 = true)
      (rangeOfManifest doc) := by
  unfold rangeOfManifest
  apply (field_yields integer h (by simp [rangeFields])).bind
  intro least hleast
  apply (rangeBound_yields hleast).bind
  intro lower hlower
  apply (field_yields integer h (by simp [rangeFields])).bind
  intro greatest hgreatest
  apply (rangeBound_yields hgreatest).bind
  intro upper hupper
  exact .pure ⟨hlower, hupper⟩

theorem UserStrategy.ofManifest_yields (h : record strategyFields doc = true) :
    Yields Usable (ofManifest doc) := by
  unfold ofManifest
  have hread : Yields (fun rule ↦ text rule = true) (doc.fieldD "rule" (.text "")) :=
    fieldD_yields h (show ("rule", text) ∈ strategyFields by simp [strategyFields]) rfl
      fun _ hrule ↦ hrule
  apply hread.bind
  intro rule hrule
  refine elements_bind (record rangeFields) h (by simp [strategyFields])
    (fun _ ↦ rangeOfManifest_yields) fun ranges hranges ↦ ?_
  exact .pure ⟨hrule, hranges⟩

theorem PodSecurityPolicy.optionalTexts_yields {v : Value} (h : v = .null ∨ listOf text v = true) :
    Yields (fun _ ↦ True) (optionalTexts v) := by
  rcases h with rfl | h
  · exact ⟨none, rfl, trivial⟩
  · obtain ⟨xs, rfl, hxs⟩ := exists_of_listOf h
    have htexts : Yields (fun _ ↦ True) (xs.mapM Value.display) :=
      (Yields.mapM (q := fun _ ↦ True) fun x hx ↦
        ⟨_, (isName_of_text (hxs x hx)).display, trivial⟩).mono fun _ _ ↦ trivial
    cases xs with
    | nil => exact .pure trivial
    | cons x rest => exact htexts.bind (q := fun _ ↦ True) fun _ _ ↦ .pure trivial

theorem PodSecurityPolicy.flag_total {spec : Value} (h : record fields spec = true) (name : String) :
    Yields (fun _ ↦ True) (PodSecurityPolicy.flag spec name) :=
  (fieldD_total h name .null).bind fun _ _ ↦ .pure trivial

/-- What follows the reading of a strategy gets a usable one, or none when none is given. -/
theorem PodSecurityPolicy.runAsUser_yields {given : Value}
    (hgiven : given = .null ∨ record strategyFields given = true)
    {rest : Option UserStrategy → Except Fault PodSecurityPolicy}
    (hrest : ∀ runAsUser : Option UserStrategy, (∀ strategy ∈ runAsUser, strategy.Usable) →
      Yields Usable (rest runAsUser)) :
    Yields Usable
      (if given.isGiven then do rest (← pure (some (← UserStrategy.ofManifest given)))
        else do rest (← pure none)) := by
  split
  · rename_i hisGiven
    rcases hgiven with rfl | hgiven
    · cases hisGiven
    · apply (UserStrategy.ofManifest_yields hgiven).bind
      intro strategy hstrategy
      apply hrest
      rintro _ ⟨⟩
      exact hstrategy
  · exact hrest none nofun

theorem PodSecurityPolicy.ofManifest_yields (h : record policyFields doc = true) :
    Yields Usable (ofManifest doc) := by
  unfold ofManifest
  apply (specification_yields policySpecFields h (by simp [policyFields])).bind
  intro spec hspec
  apply (field_yields (record strategyFields) hspec (by simp [policySpecFields])).bind
  intro given hgiven
  refine runAsUser_yields hgiven fun runAsUser hrunAsUser ↦ ?_
  apply (metadata_yields metadataFields h (by simp [policyFields])).bind
  intro header hheader
  apply (name_yields hheader (by simp [metadataFields]) (.text "")).bind
  intro name hname
  apply (flag_total hspec "privileged").bind
  intro privileged _
  apply (flag_total hspec "hostPID").bind
  intro hostPID _
  apply (flag_total hspec "hostIPC").bind
  intro hostIPC _
  apply (flag_total hspec "hostNetwork").bind
  intro hostNetwork _
  apply (flag_total hspec "allowPrivilegeEscalation").bind
  intro allowPrivilegeEscalation _
  apply (fieldTexts_total hspec (by simp [policySpecFields])).bind
  intro allowed _
  apply (field_yields (listOf text) hspec (by simp [policySpecFields])).bind
  intro dropped hdropped
  apply (optionalTexts_yields hdropped).bind
  intro required _
  exact .pure ⟨hname, hrunAsUser⟩

/-- Whatever is missing from an object with the fields of its kind, it is read as a usable asset. -/
theorem Asset.ofManifest_yields {kind : AssetKind} (hprimary : kind.isDerived = false)
    (h : record kind.fields doc = true) : Yields Usable (ofManifest kind doc) := by
  cases kind with
  | serviceAccount => exact (ServiceAccount.ofManifest_yields h).map fun _ husable ↦ husable
  | node => exact (Node.ofManifest_yields h).map fun _ husable ↦ husable
  | pod => exact (Pod.ofManifest_yields h).map fun _ husable ↦ husable
  | role => exact (Role.ofManifest_yields .namespaced h).map fun _ husable ↦ husable
  | clusterRole => exact (Role.ofManifest_yields .clusterWide h).map fun _ husable ↦ husable
  | roleBinding => exact (RoleBinding.ofManifest_yields .namespaced h).map fun _ husable ↦ husable
  | clusterRoleBinding =>
    exact (RoleBinding.ofManifest_yields .clusterWide h).map fun _ husable ↦ husable
  | podSecurityPolicy => exact (PodSecurityPolicy.ofManifest_yields h).map fun _ husable ↦ husable
  | schedulingPair | escalationDependency => cases hprimary

end ClusterAudit
