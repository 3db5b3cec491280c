import ClusterAudit.Detector.PodSecurity
import ClusterAudit.Proofs.Manifest.Path
import ClusterAudit.Proofs.Reordering

/-!
# Malformed strategies for users

The strategy of a policy says as which users containers run, and its manifest may be malformed.  A bound
of a range that is absent or denotes no integer is read as zero.  Only an infinite bound is a fault, and
the check of root users is at a loss only with a strategy that it has to report and that cannot be put into
words: when the rule is no text, or a bound is too long to be written.
-/

namespace ClusterAudit

open Manifest Shape Traversal

namespace Binary64

variable {x : Binary64}

theorem isZero_iff : x.isZero = true ↔ x.exponentField = 0 ∧ x.fraction = 0 := by
  simp [isZero]

theorem isInfinite_of_isZero (h : x.isZero = true) : x.isInfinite = false := by
  simp [isInfinite, (isZero_iff.1 h).1]

/-- A zero is its own integer part. -/
theorem truncate?_of_isZero (h : x.isZero = true) : x.truncate? = some 0 := by
  obtain ⟨hexponent, hfraction⟩ := isZero_iff.1 h
  have hmagnitude : x.magnitude? = some (0, -1074) := by simp [magnitude?, hexponent, hfraction]
  have hnegative : ¬ (0 : Int) ≤ -1074 := by decide
  rw [truncate?, hmagnitude, Option.map_some]
  dsimp only
  rw [if_neg hnegative, Nat.zero_div]
  cases x.isNegative with
  | true => rfl
  | false => rfl

end Binary64

namespace UserStrategy

/-! ## Bounds -/

def isUnbounded : Value → Bool
  | .scalar (.float x) => x.isInfinite
  | _ => false

/-- The integer that a bound denotes, zero when it denotes none. -/
def integerOf : Value → Int
  | .bool b => if b then 1 else 0
  | .int n => n
  | .scalar (.float x) => x.truncate?.getD 0
  | .text s => (Text.readInteger s).toOption.getD 0
  | _ => 0

theorem rangeBound_eq (v : Value) :
    rangeBound v = if isUnbounded v then .error .infiniteBound else .ok (integerOf v) := by
  cases v with
  | scalar s =>
    cases s with
    | null | date _ | moment _ => rfl
    | bool b =>
      cases b with
      | true => rfl
      | false => rfl
    | int n =>
      by_cases hn : n = 0
      · rw [hn]
        rfl
      · rw [rangeBound, if_pos (by simpa [Value.isGiven] using hn)]
        rfl
    | float x =>
      cases hx : x.isZero with
      | true =>
        simp [rangeBound, Value.isGiven, isUnbounded, integerOf, hx, Binary64.isInfinite_of_isZero hx,
          Binary64.truncate?_of_isZero hx]
      | false =>
        rw [rangeBound, if_pos (by simp [Value.isGiven, hx])]
        rfl
    | text s =>
      by_cases hs : s = ""
      · rw [hs]
        rfl
      · rw [rangeBound, if_pos (by simpa [Value.isGiven] using hs)]
        unfold isUnbounded integerOf
        dsimp only
        cases Text.readInteger s with
        | ok n => rfl
        | error fault => rfl
  | list xs =>
    cases xs with
    | nil => rfl
    | cons x rest => rfl
  | map es =>
    cases es with
    | nil => rfl
    | cons entry rest => rfl

/-! ## Ranges -/

/-- The bound of a range, null when it is absent. -/
def boundIn (range : Value) (name : String) : Value :=
  (range.at? [name]).getD .null

def hasUnbounded (range : Value) : Bool :=
  isUnbounded (boundIn range "min") || isUnbounded (boundIn range "max")

/-- The integers as which the bounds of a range are read. -/
def rangeIn (range : Value) : Int × Int :=
  (integerOf (boundIn range "min"), integerOf (boundIn range "max"))

theorem rangeOfManifest_eq {range : Value} (h : record [] range = true) :
    rangeOfManifest range =
      if hasUnbounded range then .error .infiniteBound else .ok (rangeIn range) := by
  obtain ⟨es, rfl, -⟩ := exists_of_record h
  have hfield (name : String) : (Value.map es).field name = .ok (boundIn (.map es) name) := by
    unfold boundIn Value.field Value.fieldD
    cases hat : valueAt? es (.text name) with
    | none => simp [Value.at?, hat]
    | some bound => simp [Value.at?, hat]
  unfold rangeOfManifest hasUnbounded rangeIn
  rw [hfield "min", hfield "max"]
  simp only [bind, Except.bind, rangeBound_eq]
  cases isUnbounded (boundIn (.map es) "min") with
  | true => rfl
  | false =>
    cases isUnbounded (boundIn (.map es) "max") with
    | true => rfl
    | false => rfl

/-! ## Strategies -/

/-- A value of a shape, or null. -/
def orNull (shape : Shape) : Shape
  | .null => true
  | v => shape v

/-- The fields of a strategy that may be malformed: the rule may be null, and the bounds of the ranges are
anything. -/
def looseFields : Fields :=
  [("rule", orNull text), ("ranges", orNull (listOf (record [])))]

/-- The rule of a strategy, the empty text when it is absent. -/
def ruleIn (strategy : Value) : Value :=
  (strategy.at? ["rule"]).getD (.text "")

/-- The ranges of a strategy, none when they are absent. -/
def rangesIn (strategy : Value) : List Value :=
  match strategy.at? ["ranges"] with
  | some (.list ranges) => ranges
  | _ => []

theorem exists_of_orNull {shape : Shape} {v : Value} (h : orNull shape v = true) :
    v = .null ∨ shape v = true := by
  unfold orNull at h
  split at h
  · exact .inl rfl
  · exact .inr h

theorem fieldElements_eq_rangesIn {strategy : Value} (h : record looseFields strategy = true) :
    strategy.fieldElements "ranges" = .ok (rangesIn strategy) ∧
      ∀ range ∈ rangesIn strategy, record [] range = true := by
  obtain ⟨es, rfl, hes⟩ := exists_of_record h
  have hranges := hes "ranges" (orNull (listOf (record []))) (by simp [looseFields])
  cases hat : valueAt? es (.text "ranges") with
  | none =>
    have hnone : rangesIn (.map es) = [] := by simp [rangesIn, Value.at?, hat]
    rw [hnone, Value.fieldElements, Value.field, Value.fieldD, hat]
    exact ⟨rfl, List.forall_mem_nil _⟩
  | some given =>
    rw [hat] at hranges
    rcases exists_of_orNull hranges with rfl | hlist
    · have hnone : rangesIn (.map es) = [] := by simp [rangesIn, Value.at?, hat]
      rw [hnone, Value.fieldElements, Value.field, Value.fieldD, hat]
      exact ⟨rfl, List.forall_mem_nil _⟩
    · obtain ⟨ranges, rfl, hmaps⟩ := exists_of_listOf hlist
      have hlisted : (Value.map es).at? ["ranges"] = some (.list ranges) := by simp [Value.at?, hat]
      have hsome : rangesIn (.map es) = ranges := by rw [rangesIn, hlisted]
      rw [hsome, Value.fieldElements_of_at? hlisted]
      exact ⟨rfl, hmaps⟩

/-- The strategy is read when no bound is infinite. -/
theorem ofManifest_eq {strategy : Value} (h : record looseFields strategy = true) :
    ofManifest strategy =
      if (rangesIn strategy).any hasUnbounded then .error .infiniteBound
      else .ok ⟨ruleIn strategy, (rangesIn strategy).map rangeIn⟩ := by
  obtain ⟨hranges, hmaps⟩ := fieldElements_eq_rangesIn h
  have hrule : strategy.fieldD "rule" (.text "") = .ok (ruleIn strategy) := by
    obtain ⟨es, rfl, -⟩ := exists_of_record h
    simp [Value.fieldD, ruleIn, Value.at?]
  unfold ofManifest
  rw [hrule, hranges]
  change ((rangesIn strategy).mapM rangeOfManifest >>= _) = _
  rw [mapM_eq_ite fun range hrange ↦ rangeOfManifest_eq (hmaps range hrange)]
  cases (rangesIn strategy).any hasUnbounded with
  | true => rfl
  | false => rfl

/-! ## Words -/

def isWritableRange (range : Int × Int) : Bool :=
  Text.isWritable range.1 && Text.isWritable range.2

def inWords (rule : String) (ranges : List (Int × Int)) : String :=
  rule ++ String.join (ranges.map fun range ↦
    " [" ++ toString range.1 ++ "," ++ toString range.2 ++ "]")

theorem describe_eq (strategy : UserStrategy) :
    strategy.describe =
      if strategy.ranges.any fun range ↦ !isWritableRange range then .error (.numeralTooLong none)
      else
        match strategy.rule with
        | .text rule => .ok (inWords rule strategy.ranges)
        | _ => .error .ruleNotText := by
  have hrange (range : Int × Int) : describeRange range =
      if !isWritableRange range then .error (.numeralTooLong none)
      else .ok (" [" ++ toString range.1 ++ "," ++ toString range.2 ++ "]") := by
    unfold describeRange describeBound isWritableRange
    cases Text.isWritable range.1 with
    | false => rfl
    | true =>
      cases Text.isWritable range.2 with
      | false => rfl
      | true => rfl
  unfold describe
  rw [mapM_eq_ite fun range _ ↦ hrange range]
  cases strategy.ranges.any fun range ↦ !isWritableRange range with
  | true => rfl
  | false => rfl

end UserStrategy

/-! ## Policies -/

open UserStrategy

namespace PodSecurityPolicy

/-- The policy that a manifest and its specification give, with a strategy that is read already. -/
def completed (doc spec : Value) (runAsUser : Option UserStrategy) :
    Except Fault PodSecurityPolicy := do
  return {
    name := ← (← metadata doc).fieldD "name" (.text "")
    privileged := ← flag spec "privileged"
    hostPID := ← flag spec "hostPID"
    hostIPC := ← flag spec "hostIPC"
    hostNetwork := ← flag spec "hostNetwork"
    allowPrivilegeEscalation := ← flag spec "allowPrivilegeEscalation"
    allowedCapabilities := ← spec.fieldTexts "allowedCapabilities"
    requiredDropCapabilities := ← optionalTexts (← spec.field "requiredDropCapabilities")
    runAsUser }

/-- The strategy that the value of its field gives, if any. -/
def strategyOf (given : Value) : Except Fault (Option UserStrategy) :=
  if given.isGiven then some <$> UserStrategy.ofManifest given else .ok none

theorem ofManifest_eq_completed {doc spec given : Value} (hspec : specification doc = .ok spec)
    (hgiven : spec.field "runAsUser" = .ok given) :
    ofManifest doc = strategyOf given >>= completed doc spec := by
  unfold ofManifest strategyOf
  rw [hspec]
  change (spec.field "runAsUser" >>= _) = _
  rw [hgiven]
  change (if given.isGiven then _ else _) = _
  split
  · cases UserStrategy.ofManifest given with
    | error fault => rfl
    | ok strategy => rfl
  · rfl

theorem completed_eq_map (doc spec : Value) (runAsUser : Option UserStrategy) :
    completed doc spec runAsUser =
      (fun rest ↦ { rest with runAsUser }) <$> completed doc spec none := by
  unfold completed
  simp only [map_bind, map_pure]

/-- Without its strategy a manifest gives the same rest of the policy. -/
theorem ofManifest_putAt_null {es spec : List Entry} {given : Value}
    (hspec : valueAt? es (.text "spec") = some (.map spec))
    (hgiven : valueAt? spec (.text "runAsUser") = some given) :
    ofManifest ((Value.map es).putAt ["spec", "runAsUser"] .null) =
      completed (.map es) (.map spec) none := by
  have hput : (Value.map es).putAt ["spec", "runAsUser"] .null =
      .map (putEntry es (.text "spec") (.map (putEntry spec (.text "runAsUser") .null))) := by
    simp [Value.putAt, hspec, hgiven]
  have hmetadata : metadata (.map (putEntry es (.text "spec")
      (.map (putEntry spec (.text "runAsUser") .null)))) = metadata (.map es) := by
    rw [metadata, metadata, Value.orEmptyMap_map, Value.orEmptyMap_map,
      Value.field_putEntry_of_ne (by decide)]
  rw [hput, ofManifest_eq_completed (specification_map (valueAt?_putEntry_self _ _ _))
    (Value.field_putEntry_self _ _ _)]
  change completed _ _ none = _
  unfold completed flag Value.fieldTexts Value.fieldElements
  simp (disch := decide) only [hmetadata, Value.field_putEntry_of_ne]

/-- A strategy is read by itself, and the rest of the policy as it is without the strategy. -/
theorem ofManifest_eq_map {doc given : Value} {rest : PodSecurityPolicy}
    (h : doc.at? ["spec", "runAsUser"] = some given)
    (hrest : ofManifest (doc.putAt ["spec", "runAsUser"] .null) = .ok rest) :
    ofManifest doc = (fun runAsUser ↦ { rest with runAsUser }) <$> strategyOf given := by
  obtain ⟨es, inner, rfl, hspec, hat⟩ := Value.at?_cons_eq_some_iff.1 h
  obtain ⟨spec, found, rfl, hfound, hend⟩ := Value.at?_cons_eq_some_iff.1 hat
  obtain rfl : found = given := Option.some.inj hend
  have hgiven : (Value.map spec).field "runAsUser" = .ok found := Value.field_eq_of_at? hat
  rw [ofManifest_putAt_null hspec hfound] at hrest
  rw [ofManifest_eq_completed (specification_map hspec) hgiven]
  cases strategyOf found with
  | error fault => rfl
  | ok runAsUser =>
    change completed (.map es) (.map spec) runAsUser = .ok { rest with runAsUser }
    rw [completed_eq_map, hrest]
    rfl

end PodSecurityPolicy

/-! ## Reports -/

namespace UserStrategy

/-- The strategy as which a map is read, none when it is empty. -/
def strategyIn (strategy : Value) : Option UserStrategy :=
  if strategy = .map [] then none else some ⟨ruleIn strategy, (rangesIn strategy).map rangeIn⟩

/-- A strategy admits the root user: it is not empty, its rule does not exclude root, and when the rule asks
for the ranges, some range starts at a bound that is read as zero. -/
def AdmitsRoot (strategy : Value) : Prop :=
  strategy ≠ .map [] ∧ ruleIn strategy ≠ .text "MustRunAsNonRoot" ∧
    (ruleIn strategy ≠ .text "MustRunAs" ∨ ∃ range ∈ rangesIn strategy, (rangeIn range).1 = 0)

instance (strategy : Value) : Decidable (AdmitsRoot strategy) :=
  inferInstanceAs (Decidable (_ ∧ _ ∧ (_ ∨ _)))

/-- A strategy can be put into words: its rule is a text, and its bounds can be written. -/
def Wordable (strategy : Value) : Prop :=
  text (ruleIn strategy) = true ∧ ∀ range ∈ rangesIn strategy, isWritableRange (rangeIn range) = true

instance (strategy : Value) : Decidable (Wordable strategy) :=
  inferInstanceAs (Decidable (_ ∧ _))

theorem strategyOf_eq {strategy : Value} (h : record looseFields strategy = true) :
    PodSecurityPolicy.strategyOf strategy =
      if (rangesIn strategy).any hasUnbounded then .error .infiniteBound
      else .ok (strategyIn strategy) := by
  have hread := ofManifest_eq h
  obtain ⟨es, rfl, -⟩ := exists_of_record h
  cases es with
  | nil => rfl
  | cons entry rest =>
    have hmap : Value.map (entry :: rest) ≠ .map [] := by simp
    unfold PodSecurityPolicy.strategyOf strategyIn
    rw [if_neg hmap, hread]
    change some <$> (if _ then _ else _) = _
    split
    · rfl
    · rfl

theorem Wordable.exists_describe_eq {strategy : Value} (h : Wordable strategy) :
    ∃ rule, ruleIn strategy = .text rule ∧
      describe ⟨ruleIn strategy, (rangesIn strategy).map rangeIn⟩ =
        .ok (inWords rule ((rangesIn strategy).map rangeIn)) := by
  obtain ⟨rule, hrule⟩ := exists_of_text h.1
  have hwritable : (((rangesIn strategy).map rangeIn).any fun range ↦ !isWritableRange range) = false := by
    simpa using h.2
  refine ⟨rule, hrule, ?_⟩
  rw [describe_eq, hwritable, hrule]
  rfl

theorem describe_of_not_wordable {strategy : Value} (h : ¬ Wordable strategy) :
    (describe ⟨ruleIn strategy, (rangesIn strategy).map rangeIn⟩).isOk = false := by
  rw [describe_eq]
  split
  · rfl
  · rename_i hwritable
    dsimp only at hwritable ⊢
    split
    · rename_i rule hrule
      refine absurd ⟨?_, by simpa using hwritable⟩ h
      rw [hrule]
      rfl
    · rfl

end UserStrategy

/-- A manifest of a policy that gives a strategy, which may be malformed.  Apart from the strategy the
policy can be read. -/
structure PodSecurityPolicy.GivesStrategy (doc strategy : Value) (rest : PodSecurityPolicy) : Prop where
  given : doc.at? ["spec", "runAsUser"] = some strategy
  loose : record looseFields strategy = true
  rest : PodSecurityPolicy.ofManifest (doc.putAt ["spec", "runAsUser"] .null) = .ok rest

namespace Detector

theorem rootEvidence_eq {policy : PodSecurityPolicy} {strategy : Value}
    (hpolicy : policy.runAsUser = strategyIn strategy) :
    rootEvidence policy =
      if AdmitsRoot strategy then do
        return [.ofText "RunAs" (← describe ⟨ruleIn strategy, (rangesIn strategy).map rangeIn⟩)]
      else .ok [] := by
  have hrule (name : String) :
      (ruleIn strategy).same (.text name) = decide (ruleIn strategy = .text name) :=
    (Value.IsName.text name).same_eq_decide _
  unfold rootEvidence
  rw [hpolicy, strategyIn]
  by_cases hempty : strategy = .map []
  · rw [if_pos hempty, if_neg fun hadmits ↦ hadmits.1 hempty]
  rw [if_neg hempty]
  dsimp only
  rw [hrule, hrule]
  by_cases hexcludes : ruleIn strategy = .text "MustRunAsNonRoot"
  · rw [if_pos (decide_eq_true hexcludes), if_neg fun hadmits ↦ hadmits.2.1 hexcludes]
  rw [if_neg (by simpa using hexcludes)]
  have hspares : (decide (ruleIn strategy = .text "MustRunAs") &&
      ((rangesIn strategy).map rangeIn).all (·.1 ≠ 0)) = true ↔
        ¬ (ruleIn strategy ≠ .text "MustRunAs" ∨ ∃ range ∈ rangesIn strategy, (rangeIn range).1 = 0) := by
    simp
  by_cases hranges :
      ruleIn strategy ≠ .text "MustRunAs" ∨ ∃ range ∈ rangesIn strategy, (rangeIn range).1 = 0
  · have hadmits : AdmitsRoot strategy := ⟨hempty, hexcludes, hranges⟩
    rw [if_pos hadmits, if_neg fun hall ↦ hspares.1 hall hranges]
  · have hadmits : ¬ AdmitsRoot strategy := fun hadmits ↦ hranges hadmits.2.2
    rw [if_neg hadmits, if_pos (hspares.2 hranges)]

/-- A policy with a malformed strategy is read unless a bound is infinite: with a bound of zero for each that
is absent or denotes no integer.  The check of root users then reports the policy exactly when the strategy
admits the root user, and it is at a loss exactly when such a strategy cannot be put into words. -/
theorem rootContainersAdmission_of_malformed_strategy (doc strategy : Value) (rest : PodSecurityPolicy)
    (h : PodSecurityPolicy.GivesStrategy doc strategy rest) :
    let asset := Asset.podSecurityPolicy { rest with runAsUser := strategyIn strategy }
    Asset.ofManifest .podSecurityPolicy doc =
      (if (rangesIn strategy).any hasUnbounded then .error .infiniteBound else .ok asset) ∧
    (AdmitsRoot strategy → Wordable strategy → ∃ rule, ruleIn strategy = .text rule ∧
      rootContainersAdmission.evaluate (some asset) =
        .ok [.ofText "RunAs" (inWords rule ((rangesIn strategy).map rangeIn))]) ∧
    (AdmitsRoot strategy → ¬ Wordable strategy →
      (rootContainersAdmission.evaluate (some asset)).isOk = false) ∧
    (¬ AdmitsRoot strategy → rootContainersAdmission.evaluate (some asset) = .ok []) := by
  intro asset
  have hevaluate : rootContainersAdmission.evaluate (some asset) =
      rootEvidence { rest with runAsUser := strategyIn strategy } := rfl
  rw [hevaluate, rootEvidence_eq rfl]
  refine ⟨?_, fun hadmits hwordable ↦ ?_, fun hadmits hwordless ↦ ?_, fun hspares ↦ if_neg hspares⟩
  · change Asset.podSecurityPolicy <$> PodSecurityPolicy.ofManifest doc = _
    rw [PodSecurityPolicy.ofManifest_eq_map h.given h.rest, strategyOf_eq h.loose]
    split
    · rfl
    · rfl
  · obtain ⟨rule, hrule, hwords⟩ := hwordable.exists_describe_eq
    refine ⟨rule, hrule, ?_⟩
    rw [if_pos hadmits, hwords]
    rfl
  · rw [if_pos hadmits, isOk_bind_pure]
    exact describe_of_not_wordable hwordless

/-! ### Odd values -/

def strategyPolicy (strategy : List (String × Value)) : Value :=
  .ofFields [("metadata", .ofFields [("name", .text "p")]),
    ("spec", .ofFields [("privileged", .bool true), ("runAsUser", .ofFields strategy)])]

/-- Ranges with odd bounds: texts, a truth value, a fraction, what is no number, and none at all. -/
theorem rootContainersAdmission_of_odd_bounds :
    let half : Value := .scalar (.float ⟨0x3FE0000000000000⟩)
    let nan : Value := .scalar (.float .nan)
    let ranges : List Value := [.ofFields [("min", .text "12 "), ("max", .null)],
      .ofFields [("min", .text "lots"), ("max", half)], .ofFields [("min", .bool true), ("max", nan)],
      .ofFields []]
    let strategy : List (String × Value) := [("rule", .text "MustRunAs"), ("ranges", .list ranges)]
    let policy : PodSecurityPolicy :=
      ⟨.text "p", true, false, false, false, false, [], none,
        some ⟨.text "MustRunAs", [(12, 0), (0, 0), (1, 0), (0, 0)]⟩⟩
    PodSecurityPolicy.GivesStrategy (strategyPolicy strategy) (.ofFields strategy)
      { policy with runAsUser := none } ∧
    AdmitsRoot (.ofFields strategy) ∧ Wordable (.ofFields strategy) ∧
    Asset.ofManifest .podSecurityPolicy (strategyPolicy strategy) = .ok (.podSecurityPolicy policy) ∧
    rootContainersAdmission.evaluate (some (.podSecurityPolicy policy)) =
      .ok [⟨"RunAs", .text "MustRunAs [12,0] [0,0] [1,0] [0,0]"⟩] := by
  intro half nan ranges strategy policy
  have h : PodSecurityPolicy.GivesStrategy (strategyPolicy strategy) (.ofFields strategy)
      { policy with runAsUser := none } := ⟨rfl, by decide +kernel, by decide +kernel⟩
  have hadmits : AdmitsRoot (.ofFields strategy) := by decide +kernel
  have hwordable : Wordable (.ofFields strategy) := by decide +kernel
  have hpolicy : strategyIn (.ofFields strategy) = policy.runAsUser := by decide +kernel
  obtain ⟨hread, hreported, -, -⟩ := rootContainersAdmission_of_malformed_strategy _ _ _ h
  obtain ⟨rule, hrule, hevaluate⟩ := hreported hadmits hwordable
  have hwritten : ruleIn (.ofFields strategy) = .text "MustRunAs" := rfl
  obtain rfl : "MustRunAs" = rule := Scalar.text.inj (Value.scalar.inj (hwritten.symm.trans hrule))
  rw [hpolicy] at hread hevaluate
  exact ⟨h, hadmits, hwordable, hread.trans (if_neg (by decide +kernel)),
    hevaluate.trans (by decide +kernel)⟩

/-- An infinite bound keeps a policy from being read, and a rule that is null keeps it from being judged. -/
theorem malformed_strategies_at_a_loss :
    let unbounded : List (String × Value) := [("rule", .text "MustRunAs"),
      ("ranges", .list [.ofFields [("min", .scalar (.float (.infinity false))), ("max", .int 2)]])]
    let ruleless : List (String × Value) := [("rule", .null), ("ranges", .list [])]
    Asset.ofManifest .podSecurityPolicy (strategyPolicy unbounded) = .error .infiniteBound ∧
    ∃ policy, Asset.ofManifest .podSecurityPolicy (strategyPolicy ruleless) = .ok policy ∧
      rootContainersAdmission.evaluate (some policy) = .error .ruleNotText := by
  intro unbounded ruleless
  exact ⟨by decide +kernel, .podSecurityPolicy
    ⟨.text "p", true, false, false, false, false, [], none, some ⟨.null, []⟩⟩, by decide +kernel,
    by decide +kernel⟩

end Detector

end ClusterAudit
