import ClusterAudit.Proofs.Inventory.Learning
import Mathlib.Data.List.Basic
import Mathlib.Logic.Relation

/-!
# How an inventory grows

Whatever an inventory is asked for, it takes steps of three forms: a primary kind that is not known
is fetched and then known, or is fetched in vain, or a derived kind is made of primary kinds that
are known.  What holds at the beginning and is kept by these steps therefore holds after any
requests.
-/

namespace ClusterAudit.Inventory

open SourceM

variable {σ : Type} (inventory : Inventory σ)

/-! ## Steps -/

/-- How the assets of a derived kind are made of what is known.  Without nodes there are no pairs,
and pods need not be known. -/
inductive Derivation (known : Knowledge) : AssetKind → List Asset → Prop
  | noPairs {nodes : List Asset} (hnodes : known? known .node = some nodes)
      (hempty : nodes.filterMap Asset.asNode? = []) : Derivation known .schedulingPair []
  | pairs {nodes pods : List Asset} (hnodes : known? known .node = some nodes)
      (hpods : known? known .pod = some pods) :
      Derivation known .schedulingPair
        (pairs (nodes.filterMap Asset.asNode?) (pods.filterMap Asset.asPod?))
  | dependencies {wideBindings wideRoles bindings roles nodes pods : List Asset}
      {clusterWide namespaced : List EscalationDependency}
      (hwideBindings : known? known .clusterRoleBinding = some wideBindings)
      (hwideRoles : known? known .clusterRole = some wideRoles)
      (hbindings : known? known .roleBinding = some bindings) (hroles : known? known .role = some roles)
      (hnodes : known? known .node = some nodes) (hpods : known? known .pod = some pods)
      (hclusterWide : Escalation.resolve (wideBindings.filterMap Asset.asBinding?)
        (wideRoles.filterMap Asset.asRole?) (nodes.filterMap Asset.asNode?)
        (pods.filterMap Asset.asPod?) (inventory.source.defaultNames .serviceAccount)
        inventory.includeDefaults = .ok clusterWide)
      (hnamespaced : Escalation.resolve (bindings.filterMap Asset.asBinding?)
        (roles.filterMap Asset.asRole?) (nodes.filterMap Asset.asNode?)
        (pods.filterMap Asset.asPod?) (inventory.source.defaultNames .serviceAccount)
        inventory.includeDefaults = .ok namespaced) :
      Derivation known .escalationDependency
        ((clusterWide ++ namespaced).map .escalationDependency)

/-- One step of an inventory, which concerns a kind that is not known. -/
inductive Step (s : InventoryState σ) : AssetKind → InventoryState σ → Prop
  | fetched {kind : AssetKind} {assets : List Asset} {source : σ} (hprimary : kind.isDerived = false)
      (hunknown : known? s.known kind = none)
      (hload : inventory.load kind s.source = (.ok assets, source)) :
      Step s kind ((s.afterFetch kind source).knowing kind assets)
  | failed {kind : AssetKind} {fault : Fault} {source : σ} (hprimary : kind.isDerived = false)
      (hunknown : known? s.known kind = none)
      (hload : inventory.load kind s.source = (.error fault, source)) :
      Step s kind (s.afterFetch kind source)
  | derived {kind : AssetKind} {assets : List Asset} (hunknown : known? s.known kind = none)
      (hassets : inventory.Derivation s.known kind assets) : Step s kind (s.knowing kind assets)

/-- Any number of steps, each of which concerns a kind that satisfies the condition. -/
def Steps (p : AssetKind → Prop) : InventoryState σ → InventoryState σ → Prop :=
  Relation.ReflTransGen fun s t ↦ ∃ kind, p kind ∧ inventory.Step s kind t

variable {inventory} {p q : AssetKind → Prop} {s t u : InventoryState σ} {kind : AssetKind}

theorem Steps.refl : inventory.Steps p s s := Relation.ReflTransGen.refl

theorem Steps.trans (h : inventory.Steps p s t) (hmore : inventory.Steps p t u) :
    inventory.Steps p s u :=
  Relation.ReflTransGen.trans h hmore

theorem Steps.single (hkind : p kind) (h : inventory.Step s kind t) : inventory.Steps p s t :=
  Relation.ReflTransGen.single ⟨kind, hkind, h⟩

theorem Steps.mono (hpq : ∀ kind, p kind → q kind) (h : inventory.Steps p s t) :
    inventory.Steps q s t := by
  induction h with
  | refl => exact .refl
  | tail _ hlast ih =>
    obtain ⟨kind, hkind, hstep⟩ := hlast
    exact ih.trans (.single (hpq kind hkind) hstep)

/-- What is kept by single steps is kept by any number of them. -/
theorem Steps.invariant {holds : InventoryState σ → Prop}
    (hstep : ∀ s kind t, inventory.Step s kind t → holds s → holds t) (h : inventory.Steps p s t)
    (hs : holds s) : holds t := by
  induction h with
  | refl => exact hs
  | tail _ hlast ih =>
    obtain ⟨kind, -, hlast⟩ := hlast
    exact hstep _ kind _ hlast ih

theorem Step.known_eq (h : inventory.Step s kind t) :
    t.known = s.known ∨ ∃ assets, t.known = s.known ++ [(kind, assets)] := by
  cases h with
  | fetched => exact .inr ⟨_, rfl⟩
  | failed => exact .inl rfl
  | derived => exact .inr ⟨_, rfl⟩

theorem Step.known?_of_ne (h : inventory.Step s kind t) {other : AssetKind} (hne : kind ≠ other) :
    known? t.known other = known? s.known other := by
  rcases h.known_eq with hsame | ⟨assets, hmore⟩
  · rw [hsame]
  · rw [hmore, known?_append_of_ne hne]

/-- Steps forget nothing. -/
theorem Steps.prefix_known (h : inventory.Steps p s t) : s.known <+: t.known := by
  induction h with
  | refl => exact List.prefix_rfl
  | tail _ hlast ih =>
    obtain ⟨kind, -, hlast⟩ := hlast
    rcases hlast.known_eq with hsame | ⟨assets, hmore⟩
    · rw [hsame]
      exact ih
    · rw [hmore]
      exact ih.trans (List.prefix_append _ _)

theorem Step.prefix_activities (h : inventory.Step s kind t) : s.activities <+: t.activities := by
  cases h with
  | fetched => exact List.prefix_append _ _
  | failed => exact List.prefix_append _ _
  | derived => exact List.prefix_rfl

/-- What was done stays noted. -/
theorem Steps.prefix_activities (h : inventory.Steps p s t) : s.activities <+: t.activities := by
  induction h with
  | refl => exact List.prefix_rfl
  | tail _ hlast ih =>
    obtain ⟨kind, -, hlast⟩ := hlast
    exact ih.trans hlast.prefix_activities

theorem Steps.knows (h : inventory.Steps p s t) {assets : List Asset}
    (hknown : known? s.known kind = some assets) : known? t.known kind = some assets := by
  obtain ⟨more, hmore⟩ := h.prefix_known
  rw [← hmore]
  exact known?_append_of_some hknown more

theorem Steps.recalled_eq (h : inventory.Steps p s t) {assets : List Asset}
    (hknown : known? s.known kind = some assets) : recalled t.known kind = assets := by
  rw [Inventory.recalled, h.knows hknown, Option.getD_some]

theorem SourcesKnown.later (h : SourcesKnown s.known kind) (hsteps : inventory.Steps p s t) :
    SourcesKnown t.known kind := by
  obtain ⟨more, hmore⟩ := hsteps.prefix_known
  rw [← hmore]
  exact h.append more

/-- Kinds that the steps do not concern are known as before. -/
theorem Steps.known?_of_not (h : inventory.Steps p s t) (hkind : ¬p kind) :
    known? t.known kind = known? s.known kind := by
  induction h with
  | refl => rfl
  | tail _ hlast ih =>
    obtain ⟨other, hother, hlast⟩ := hlast
    rw [← ih]
    apply hlast.known?_of_ne
    rintro rfl
    exact hkind hother

/-! ## Operations take steps -/

/-- Being primary, as a condition on the kinds of steps. -/
def IsPrimary (kind : AssetKind) : Prop := kind.isDerived = false

/-- A primary kind is fetched at most once, and is known afterwards if it is answered. -/
theorem primary_run_steps {result : Except Fault (List Asset)}
    (h : (inventory.primary kind).run s = (result, t)) (hkind : IsPrimary kind) :
    inventory.Steps IsPrimary s t ∧ known? t.known kind = result.toOption := by
  cases hknown : known? s.known kind with
  | some assets =>
    rw [inventory.primary_run_known hknown] at h
    cases h
    exact ⟨.refl, hknown⟩
  | none =>
    rw [inventory.primary_run_unknown hknown] at h
    rcases hload : inventory.load kind s.source with ⟨fault | assets, source⟩
    · rw [hload] at h
      cases h
      exact ⟨.single hkind (.failed hkind hknown hload), hknown⟩
    · rw [hload] at h
      cases h
      exact ⟨.single hkind (.fetched hkind hknown hload), known?_append_self hknown assets⟩

theorem derivePairs_run_steps {result : Except Fault (List Asset)}
    (h : inventory.derivePairs.run s = (result, t)) :
    inventory.Steps IsPrimary s t ∧
      ∀ assets, result = .ok assets → inventory.Derivation t.known .schedulingPair assets := by
  unfold derivePairs at h
  rcases run_bind_cases h with ⟨fault, hnode, rfl⟩ | ⟨nodes, u, hnode, h⟩
  · exact ⟨(primary_run_steps hnode rfl).1, fun assets hassets ↦ nomatch hassets⟩
  · obtain ⟨hnodeSteps, hnodes⟩ := primary_run_steps hnode rfl
    dsimp only at h
    split at h
    · rename_i hempty
      cases h
      refine ⟨hnodeSteps, fun assets hassets ↦ ?_⟩
      cases hassets
      exact .noPairs hnodes (List.isEmpty_iff.1 hempty)
    · rcases run_bind_cases h with ⟨fault, hpod, rfl⟩ | ⟨pods, v, hpod, h⟩
      · refine ⟨hnodeSteps.trans (primary_run_steps hpod rfl).1, fun assets hassets ↦ ?_⟩
        cases hassets
      · obtain ⟨hpodSteps, hpods⟩ := primary_run_steps hpod rfl
        cases h
        refine ⟨hnodeSteps.trans hpodSteps, fun assets hassets ↦ ?_⟩
        cases hassets
        exact .pairs (hpodSteps.knows hnodes) hpods

theorem resolveKinds_run_steps {nodes : List Node} {pods : List Pod} {bindingKind roleKind : AssetKind}
    {result : Except Fault (List EscalationDependency)}
    (h : (inventory.resolveKinds nodes pods bindingKind roleKind).run s = (result, t))
    (hbinding : IsPrimary bindingKind) (hrole : IsPrimary roleKind) :
    inventory.Steps IsPrimary s t ∧ ∀ found, result = .ok found →
      ∃ bindings roles, known? t.known bindingKind = some bindings ∧
        known? t.known roleKind = some roles ∧
        Escalation.resolve (bindings.filterMap Asset.asBinding?) (roles.filterMap Asset.asRole?) nodes
          pods (inventory.source.defaultNames .serviceAccount) inventory.includeDefaults =
            .ok found := by
  unfold resolveKinds at h
  rcases run_bind_cases h with ⟨fault, hload, rfl⟩ | ⟨bindings, u, hload, h⟩
  · exact ⟨(primary_run_steps hload hbinding).1, fun found hfound ↦ nomatch hfound⟩
  · obtain ⟨hbindingSteps, hbindings⟩ := primary_run_steps hload hbinding
    rcases run_bind_cases h with ⟨fault, hload, rfl⟩ | ⟨roles, v, hload, h⟩
    · refine ⟨hbindingSteps.trans (primary_run_steps hload hrole).1, fun found hfound ↦ ?_⟩
      cases hfound
    · obtain ⟨hroleSteps, hroles⟩ := primary_run_steps hload hrole
      cases h
      exact ⟨hbindingSteps.trans hroleSteps, fun found hfound ↦
        ⟨bindings, roles, hroleSteps.knows hbindings, hroles, hfound⟩⟩

theorem deriveDependencies_run_steps {result : Except Fault (List Asset)}
    (h : inventory.deriveDependencies.run s = (result, t)) :
    inventory.Steps IsPrimary s t ∧
      ∀ assets, result = .ok assets → inventory.Derivation t.known .escalationDependency assets := by
  unfold deriveDependencies at h
  rcases run_bind_cases h with ⟨fault, hload, rfl⟩ | ⟨nodes, u, hload, h⟩
  · exact ⟨(primary_run_steps hload rfl).1, fun assets hassets ↦ nomatch hassets⟩
  obtain ⟨hnodeSteps, hnodes⟩ := primary_run_steps hload rfl
  rcases run_bind_cases h with ⟨fault, hload, rfl⟩ | ⟨pods, v, hload, h⟩
  · refine ⟨hnodeSteps.trans (primary_run_steps hload rfl).1, fun assets hassets ↦ ?_⟩
    cases hassets
  obtain ⟨hpodSteps, hpods⟩ := primary_run_steps hload rfl
  rcases run_bind_cases h with ⟨fault, hload, rfl⟩ | ⟨clusterWide, w, hload, h⟩
  · refine ⟨(hnodeSteps.trans hpodSteps).trans (resolveKinds_run_steps hload rfl rfl).1,
      fun assets hassets ↦ ?_⟩
    cases hassets
  obtain ⟨hwideSteps, hwide⟩ := resolveKinds_run_steps hload rfl rfl
  rcases run_bind_cases h with ⟨fault, hload, rfl⟩ | ⟨namespaced, x, hload, h⟩
  · refine ⟨((hnodeSteps.trans hpodSteps).trans hwideSteps).trans
      (resolveKinds_run_steps hload rfl rfl).1, fun assets hassets ↦ ?_⟩
    cases hassets
  obtain ⟨hlocalSteps, hlocal⟩ := resolveKinds_run_steps hload rfl rfl
  cases h
  refine ⟨((hnodeSteps.trans hpodSteps).trans hwideSteps).trans hlocalSteps, fun assets hassets ↦ ?_⟩
  cases hassets
  obtain ⟨wideBindings, wideRoles, hwideBindings, hwideRoles, hresolveWide⟩ := hwide _ rfl
  obtain ⟨bindings, roles, hbindings, hroles, hresolve⟩ := hlocal _ rfl
  exact .dependencies (hlocalSteps.knows hwideBindings) (hlocalSteps.knows hwideRoles) hbindings hroles
    (hlocalSteps.knows (hwideSteps.knows (hpodSteps.knows hnodes)))
    (hlocalSteps.knows (hwideSteps.knows hpods)) hresolveWide hresolve

/-- Remembering a derived kind is the last of the steps that derive it. -/
theorem remembered_run_steps {load : InventoryM σ (List Asset)} {result : Except Fault (List Asset)}
    (hderived : ¬IsPrimary kind)
    (hload : ∀ r u, load.run s = (r, u) → inventory.Steps IsPrimary s u ∧
      ∀ assets, r = .ok assets → inventory.Derivation u.known kind assets)
    (h : (remembered kind load).run s = (result, t)) :
    inventory.Steps (fun _ ↦ True) s t ∧ known? t.known kind = result.toOption := by
  rw [remembered_run] at h
  cases hknown : known? s.known kind with
  | some assets =>
    rw [hknown] at h
    cases h
    exact ⟨.refl, hknown⟩
  | none =>
    rw [hknown] at h
    rcases hrun : load.run s with ⟨fault | assets, u⟩
    · obtain ⟨hsteps, -⟩ := hload _ _ hrun
      rw [hrun] at h
      cases h
      refine ⟨hsteps.mono fun _ _ ↦ trivial, ?_⟩
      rw [hsteps.known?_of_not hderived, hknown]
      rfl
    · obtain ⟨hsteps, hassets⟩ := hload _ _ hrun
      rw [hrun] at h
      cases h
      have hunknown : known? u.known kind = none := by
        rw [hsteps.known?_of_not hderived, hknown]
      refine ⟨(hsteps.mono fun _ _ ↦ trivial).trans
        (.single trivial (.derived hunknown (hassets _ rfl))), ?_⟩
      exact known?_append_self hunknown assets

/-- A kind that is answered is known afterwards, and one that is not stays unknown. -/
theorem assetsOf_run_steps {result : Except Fault (List Asset)}
    (h : (inventory.assetsOf kind).run s = (result, t)) :
    inventory.Steps (fun _ ↦ True) s t ∧ known? t.known kind = result.toOption := by
  cases hkind : kind.isDerived with
  | false =>
    rw [inventory.assetsOf_primary hkind] at h
    obtain ⟨hsteps, hknown⟩ := primary_run_steps h hkind
    exact ⟨hsteps.mono fun _ _ ↦ trivial, hknown⟩
  | true =>
    have hderived : ¬IsPrimary kind := by
      rw [IsPrimary, hkind]
      exact Bool.noConfusion
    cases kind with
    | schedulingPair =>
      exact remembered_run_steps hderived (fun r u hrun ↦ derivePairs_run_steps hrun) h
    | escalationDependency =>
      exact remembered_run_steps hderived (fun r u hrun ↦ deriveDependencies_run_steps hrun) h
    | _ => cases hkind

/-! ## Requests -/

/-- How a request for some kinds ends, given what is known afterwards: all of them are known and
answered as they are known, or the first one that is not known has failed. -/
def Answered (known : Knowledge) (kinds : List AssetKind) : Except Fault (List Asset) → Prop
  | .ok answer =>
    (∀ kind ∈ kinds, ∃ assets, known? known kind = some assets) ∧
      answer = kinds.flatMap (recalled known)
  | .error _ =>
    ∃ before kind rest, kinds = before ++ kind :: rest ∧
      (∀ earlier ∈ before, ∃ assets, known? known earlier = some assets) ∧ known? known kind = none

theorem Answered.head_unknown {known : Knowledge} (hunknown : known? known kind = none)
    (rest : List AssetKind) (fault : Fault) : Answered known (kind :: rest) (.error fault) := by
  refine ⟨[], kind, rest, rfl, ?_, hunknown⟩
  intro earlier hearlier
  cases hearlier

/-- A kind that is known is answered before the other ones. -/
theorem Answered.head_known {known : Knowledge} {assets : List Asset}
    (hknown : known? known kind = some assets) {rest : List AssetKind}
    {result : Except Fault (List Asset)} (h : Answered known rest result) :
    Answered known (kind :: rest) (result.map (assets ++ ·)) := by
  have hhead : ∃ assets, known? known kind = some assets := ⟨assets, hknown⟩
  cases result with
  | error fault =>
    obtain ⟨before, failing, later, rfl, hbefore, hunknown⟩ := h
    exact ⟨kind :: before, failing, later, rfl, List.forall_mem_cons.2 ⟨hhead, hbefore⟩, hunknown⟩
  | ok others =>
    obtain ⟨hothers, rfl⟩ := h
    refine ⟨List.forall_mem_cons.2 ⟨hhead, hothers⟩, ?_⟩
    rw [List.flatMap_cons, recalled, hknown, Option.getD_some]

/-- Asking for kinds takes steps, and what is answered is what is known afterwards. -/
theorem getAssets_run_steps {kinds : List AssetKind} {result : Except Fault (List Asset)}
    (h : (inventory.getAssets kinds).run s = (result, t)) :
    inventory.Steps (fun _ ↦ True) s t ∧ Answered t.known kinds result := by
  induction kinds generalizing s t result with
  | nil =>
    cases h
    refine ⟨.refl, ?_, rfl⟩
    intro kind hkind
    cases hkind
  | cons kind rest ih =>
    rw [getAssets_cons_run] at h
    rcases hfirst : (inventory.assetsOf kind).run s with ⟨fault | assets, u⟩
    · obtain ⟨hsteps, hunknown⟩ := assetsOf_run_steps hfirst
      rw [hfirst] at h
      cases h
      exact ⟨hsteps, .head_unknown hunknown rest fault⟩
    · obtain ⟨hsteps, hknown⟩ := assetsOf_run_steps hfirst
      rw [hfirst] at h
      rcases hrest : (inventory.getAssets rest).run u with ⟨later, v⟩
      obtain ⟨hmore, hlater⟩ := ih hrest
      -- The first kind stays known while the others are learnt.
      have hanswered := hlater.head_known (hmore.knows hknown)
      dsimp only at h
      rw [hrest] at h
      cases later with
      | error fault =>
        cases h
        exact ⟨hsteps.trans hmore, hanswered⟩
      | ok others =>
        cases h
        exact ⟨hsteps.trans hmore, hanswered⟩

/-- What was answered is still what is known after more steps. -/
theorem Answered.later {kinds : List AssetKind} {answer : List Asset}
    (h : Answered s.known kinds (.ok answer)) (hsteps : inventory.Steps p s t) :
    Answered t.known kinds (.ok answer) := by
  obtain ⟨hknown, rfl⟩ := h
  refine ⟨?_, ?_⟩
  · intro kind hkind
    obtain ⟨assets, hassets⟩ := hknown kind hkind
    exact ⟨assets, hsteps.knows hassets⟩
  · apply List.flatMap_congr
    intro kind hkind
    obtain ⟨assets, hassets⟩ := hknown kind hkind
    rw [hsteps.recalled_eq hassets, recalled, hassets, Option.getD_some]

/-- Learning kinds is asking for them without taking the answer. -/
theorem prefetch_run_eq_getAssets (inventory : Inventory σ) (kinds : List AssetKind)
    (s : InventoryState σ) :
    (inventory.prefetch kinds).run s =
      (((inventory.getAssets kinds).run s).1.map fun _ ↦ (),
        ((inventory.getAssets kinds).run s).2) := by
  induction kinds generalizing s with
  | nil => rfl
  | cons kind rest ih =>
    rw [prefetch_cons_run, getAssets_cons_run]
    rcases (inventory.assetsOf kind).run s with ⟨fault | assets, u⟩
    · rfl
    · dsimp only
      rw [ih]
      rcases (inventory.getAssets rest).run u with ⟨fault | others, v⟩
      · rfl
      · rfl

/-- Kinds that were learnt without a fault are known. -/
theorem prefetch_run_steps {kinds : List AssetKind} {result : Except Fault Unit}
    (h : (inventory.prefetch kinds).run s = (result, t)) :
    inventory.Steps (fun _ ↦ True) s t ∧
      ∀ a, result = .ok a → ∀ kind ∈ kinds, ∃ assets, known? t.known kind = some assets := by
  rw [prefetch_run_eq_getAssets] at h
  rcases hget : (inventory.getAssets kinds).run s with ⟨fault | answer, u⟩
  · rw [hget] at h
    cases h
    refine ⟨(getAssets_run_steps hget).1, ?_⟩
    intro a ha
    cases ha
  · rw [hget] at h
    cases h
    obtain ⟨hsteps, hknown, -⟩ := getAssets_run_steps hget
    exact ⟨hsteps, fun _ _ ↦ hknown⟩

end ClusterAudit.Inventory
