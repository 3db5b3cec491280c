import ClusterAudit.Proofs.Manifest.Fields
import ClusterAudit.Proofs.Manifest.Written
import ClusterAudit.Scheduling.Affinity
import Mathlib.Data.Nat.Digits.Defs

/-!
# Affinity as a choice of conditions

The affinity of a pod offers terms, of which a node with given labels has to meet one, condition by
condition.  What each operator asks of a label is stated here apart from the check, for labels and values
that are texts.  The check finds nothing to report when there is no condition at all or a term whose
conditions all hold; otherwise it reports every condition that does not hold, term by term.
-/

namespace ClusterAudit.Scheduling

open Manifest Traversal

/-! ## Numerals -/

/-- The text is a minus, if it is negative, and then basic digits, at least one. -/
def IsNumeral (text : String) (negative : Bool) (digits : List Char) : Prop :=
  digits ≠ [] ∧ (∀ c ∈ digits, c.isDigit = true) ∧
    text.toList = if negative then '-' :: digits else digits

/-- The number that digits denote by their places. -/
def placeValue (digits : List Char) : ℕ :=
  Nat.ofDigits 10 (digits.reverse.map fun c ↦ c.toNat - '0'.toNat)

/-- The text denotes the integer. -/
def Denotes (text : String) (n : ℤ) : Prop :=
  ∃ negative digits, IsNumeral text negative digits ∧
    n = if negative then -(placeValue digits : ℤ) else placeValue digits

/-- The text has no more digits than are read, if it is a numeral at all. -/
def IsShort (text : String) : Prop :=
  ∀ negative digits, IsNumeral text negative digits → digits.length ≤ Text.digitLimit

theorem isShort_of_length_le {text : String} (h : text.length ≤ Text.digitLimit) : IsShort text := by
  rintro negative digits ⟨-, -, htext⟩
  rw [← String.length_toList, htext] at h
  cases negative with
  | true => exact (Nat.le_succ _).trans h
  | false => exact h

/-- The integer that a text denotes, however many digits it has. -/
def integerOf? (text : String) : Option ℤ :=
  (Text.strictNumeral? text).map fun numeral ↦ Text.signed numeral.1 (Text.ofDigits numeral.2)

theorem ofDigits_eq_placeValue (digits : List Char) :
    Text.ofDigits (digits.map fun c ↦ c.toNat - '0'.toNat) = placeValue digits := by
  rw [Text.ofDigits, placeValue, List.map_reverse, Nat.ofDigits_eq_foldr, List.foldl_eq_foldr_reverse]
  congr 1
  funext d value
  simp only [Nat.cast_id]
  omega

theorem readBasicDigits_eq_some_iff {cs : List Char} {digits : List ℕ} :
    Text.readBasicDigits cs = some digits ↔
      cs ≠ [] ∧ (∀ c ∈ cs, c.isDigit = true) ∧ cs.map (fun c ↦ c.toNat - '0'.toNat) = digits := by
  have hbasic : (cs.isEmpty || !cs.all Char.isDigit) = true ↔
      ¬ (cs ≠ [] ∧ ∀ c ∈ cs, c.isDigit = true) := by
    simp only [Bool.or_eq_true, List.isEmpty_iff, Bool.not_eq_true', List.all_eq_false]
    grind
  unfold Text.readBasicDigits
  split
  · rename_i h
    rw [hbasic] at h
    constructor
    · intro hread
      cases hread
    · rintro ⟨hne, hdigits, -⟩
      exact absurd ⟨hne, hdigits⟩ h
  · rename_i h
    rw [hbasic, not_not] at h
    rw [Option.some_inj]
    exact ⟨fun hread ↦ ⟨h.1, h.2, hread⟩, fun hread ↦ hread.2.2⟩

/-- Digits are not read as a sign, so a numeral is read in one way only. -/
theorem strictNumeral?_eq_some_iff {text : String} {negative : Bool} {digits : List ℕ} :
    Text.strictNumeral? text = some (negative, digits) ↔
      ∃ cs, IsNumeral text negative cs ∧ cs.map (fun c ↦ c.toNat - '0'.toNat) = digits := by
  have hread (body : List Char) (sign : Bool) :
      (Text.readBasicDigits body).map (sign, ·) = some (negative, digits) ↔
        sign = negative ∧ body ≠ [] ∧ (∀ c ∈ body, c.isDigit = true) ∧
          body.map (fun c ↦ c.toNat - '0'.toNat) = digits := by
    rw [← readBasicDigits_eq_some_iff]
    cases Text.readBasicDigits body with
    | none => simp
    | some read => simp
  unfold Text.strictNumeral? IsNumeral
  split
  · rename_i body htext
    rw [hread, htext]
    constructor
    · rintro ⟨rfl, hne, hdigits, hvalues⟩
      exact ⟨body, ⟨hne, hdigits, rfl⟩, hvalues⟩
    · rintro ⟨cs, ⟨hne, hdigits, hsame⟩, hvalues⟩
      cases negative with
      | true =>
        obtain rfl : body = cs := List.tail_eq_of_cons_eq hsame
        exact ⟨rfl, hne, hdigits, hvalues⟩
      | false =>
        have hcs : '-' :: body = cs := hsame
        have hminus : '-'.isDigit = true := hdigits '-' (hcs ▸ List.mem_cons_self)
        exact absurd hminus (by decide)
  · rename_i hplain
    rw [hread]
    constructor
    · rintro ⟨rfl, hne, hdigits, hvalues⟩
      exact ⟨text.toList, ⟨hne, hdigits, rfl⟩, hvalues⟩
    · rintro ⟨cs, ⟨hne, hdigits, hsame⟩, hvalues⟩
      cases negative with
      | true => exact absurd hsame (hplain cs)
      | false =>
        rw [hsame]
        exact ⟨rfl, hne, hdigits, hvalues⟩

theorem integerOf?_eq_some_iff {text : String} {n : ℤ} : integerOf? text = some n ↔ Denotes text n := by
  unfold integerOf? Denotes
  rw [Option.map_eq_some_iff]
  constructor
  · rintro ⟨⟨negative, digits⟩, hnumeral, rfl⟩
    obtain ⟨cs, hcs, rfl⟩ := strictNumeral?_eq_some_iff.1 hnumeral
    refine ⟨negative, cs, hcs, ?_⟩
    rw [ofDigits_eq_placeValue]
    rfl
  · rintro ⟨negative, cs, hcs, rfl⟩
    refine ⟨(negative, _), strictNumeral?_eq_some_iff.2 ⟨cs, hcs, rfl⟩, ?_⟩
    rw [ofDigits_eq_placeValue]
    rfl

instance {text : String} {p : ℤ → Prop} [DecidablePred p] : Decidable (∃ n, Denotes text n ∧ p n) :=
  decidable_of_iff (∃ n ∈ integerOf? text, p n) <| by
    simp only [Option.mem_def, integerOf?_eq_some_iff]

theorem operandInteger_of_isShort {text : String} (h : IsShort text) :
    operandInteger (.text text) = .ok (integerOf? text) := by
  unfold operandInteger integerOf?
  dsimp only
  rcases hnumeral : Text.strictNumeral? text with _ | ⟨negative, digits⟩
  · rfl
  · obtain ⟨cs, hcs, rfl⟩ := strictNumeral?_eq_some_iff.1 hnumeral
    have hshort : (cs.map fun c ↦ c.toNat - '0'.toNat).length ≤ Text.digitLimit := by
      rw [List.length_map]
      exact h negative cs hcs
    dsimp only
    rw [Text.ofSignedDigits, if_pos hshort]
    rfl

theorem operandIntegers_texts {texts : List String} (h : ∀ text ∈ texts, IsShort text) :
    operandIntegers (texts.map .text) = .ok (texts.mapM integerOf?) := by
  have hall : (texts.map Value.text).mapM operandInteger = .ok (texts.map integerOf?) := by
    rw [List.mapM_map]
    exact mapM_eq_ok_map fun text htext ↦ operandInteger_of_isShort (h text htext)
  rw [operandIntegers, hall]
  change Except.ok ((texts.map integerOf?).mapM id) = _
  rw [List.mapM_map]
  rfl

theorem any_mapM {α β : Type} (f : α → Option β) (p : β → Bool) (xs : List α) :
    ((xs.mapM f).any fun ys ↦ ys.all p) = xs.all fun x ↦ (f x).any p := by
  induction xs with
  | nil => rfl
  | cons x rest ih =>
    rw [List.mapM_cons, List.all_cons, ← ih]
    cases f x with
    | none => rfl
    | some y =>
      cases rest.mapM f with
      | none => exact (Bool.and_false _).symm
      | some ys => rfl

/-- An integer compares with all values when each of them denotes one with which it does. -/
theorem comparesWithAll_texts {compare : ℤ → ℤ → Bool} {label : Option String} {values : List String}
    (hlabel : ∀ text ∈ label, IsShort text) (hvalues : ∀ value ∈ values, IsShort value) :
    ∃ verdict, comparesWithAll compare (label.map .text) (values.map .text) = .ok verdict ∧
      (verdict = true ↔ ∃ text ∈ label, ∃ n, Denotes text n ∧
        ∀ value ∈ values, ∃ bound, Denotes value bound ∧ compare n bound = true) := by
  cases label with
  | none => exact ⟨false, rfl, by simp⟩
  | some text =>
    refine ⟨(integerOf? text).any fun n ↦ values.all fun value ↦ (integerOf? value).any (compare n),
      ?_, by simp [Option.any_eq_true, integerOf?_eq_some_iff]⟩
    rw [Option.map_some, comparesWithAll, operandInteger_of_isShort (hlabel text rfl)]
    cases integerOf? text with
    | none => rfl
    | some n =>
      rw [Option.any_some, ← any_mapM]
      change operandIntegers (values.map .text) >>= _ = _
      rw [operandIntegers_texts hvalues]
      cases values.mapM integerOf? with
      | none => rfl
      | some bounds => rfl

/-- A label that denotes no integer compares with nothing, whatever the values are. -/
theorem comparesWithAll_of_no_integer {compare : ℤ → ℤ → Bool} {label : Option String}
    (h : ∀ text ∈ label, ∀ n, ¬ Denotes text n) (values : List Value) :
    comparesWithAll compare (label.map .text) values = .ok false := by
  cases label with
  | none => rfl
  | some text =>
    have hshort : IsShort text :=
      fun negative digits hnumeral ↦ absurd ⟨negative, digits, hnumeral, rfl⟩ (h text rfl _)
    have hnone : integerOf? text = none :=
      Option.eq_none_iff_forall_not_mem.2 fun n hn ↦ h text rfl n (integerOf?_eq_some_iff.1 hn)
    rw [Option.map_some, comparesWithAll, operandInteger_of_isShort hshort, hnone]
    rfl

/-! ## Conditions -/

/-- A condition on one label, for which texts are listed. -/
structure Condition where
  key : String
  operator : Value
  values : List String

/-- The labels with which texts are given to texts, as entries of a map. -/
def labelEntries (labels : List (String × String)) : List Entry :=
  labels.map fun label ↦ (.text label.1, .text label.2)

namespace Condition

theorem lookup?_labelEntries (labels : List (String × String)) (key : String) :
    lookup? (labelEntries labels) (.text key) = .ok ((labels.lookup key).map .text) := by
  change Except.ok (valueAt? (labelEntries labels) (.text key)) = _
  congr 1
  induction labels with
  | nil => rfl
  | cons label rest ih =>
    rw [labelEntries, List.map_cons, valueAt?_cons, List.lookup_cons, Scalar.same_text]
    by_cases hkey : label.1 = key
    · simp [hkey]
    · have hother : (key == label.1) = false := beq_false_of_ne (Ne.symm hkey)
      rw [hother, if_neg (by simpa using hkey)]
      exact ih

def expression (condition : Condition) : MatchExpression where
  key := .text condition.key
  operator := condition.operator
  values := condition.values.map .text

def term (conditions : List Condition) : SelectorTerm :=
  ⟨conditions.map expression⟩

/-- What each operator asks of the labels; no other operator is ever content. -/
def Holds (labels : List (String × String)) (condition : Condition) : Prop :=
  (condition.operator = .text "In" ∧
    ∃ label ∈ labels.lookup condition.key, label ∈ condition.values) ∨
  (condition.operator = .text "NotIn" ∧
    ∃ label ∈ labels.lookup condition.key, label ∉ condition.values) ∨
  (condition.operator = .text "Exists" ∧ labels.lookup condition.key ≠ none) ∨
  (condition.operator = .text "DoesNotExist" ∧ labels.lookup condition.key = none) ∨
  (condition.operator = .text "Gt" ∧ ∃ label ∈ labels.lookup condition.key, ∃ n, Denotes label n ∧
    ∀ value ∈ condition.values, ∃ bound, Denotes value bound ∧ bound < n) ∨
  (condition.operator = .text "Lt" ∧ ∃ label ∈ labels.lookup condition.key, ∃ n, Denotes label n ∧
    ∀ value ∈ condition.values, ∃ bound, Denotes value bound ∧ n < bound)

instance (labels : List (String × String)) (condition : Condition) :
    Decidable (condition.Holds labels) :=
  inferInstanceAs (Decidable (_ ∨ _ ∨ _ ∨ _ ∨ _ ∨ _))

/-- Where integers are compared, none of them has more digits than are read. -/
def IsReadable (labels : List (String × String)) (condition : Condition) : Prop :=
  condition.operator = .text "Gt" ∨ condition.operator = .text "Lt" →
    (∀ label ∈ labels.lookup condition.key, IsShort label) ∧
      ∀ value ∈ condition.values, IsShort value

theorem isReadable_of_length_le {labels : List (String × String)} {condition : Condition}
    (h : ∀ text ∈ (labels.lookup condition.key).toList ++ condition.values,
      text.length ≤ Text.digitLimit) : condition.IsReadable labels := by
  refine fun _ ↦ ⟨fun label hlabel ↦ ?_, fun value hvalue ↦ ?_⟩
  · exact isShort_of_length_le (h label (List.mem_append_left _ (Option.mem_toList.2 hlabel)))
  · exact isShort_of_length_le (h value (List.mem_append_right _ hvalue))

/-- The requirement to which a condition amounts. -/
def requirement (condition : Condition) : UnmetRequirement where
  key := .text condition.key
  value := .text (bracketed condition.values)
  aspect := some ("Operator", condition.operator)

/-- The check of a condition tells whether it holds. -/
theorem expressionMatches_expression {labels : List (String × String)} {condition : Condition}
    (h : condition.IsReadable labels) :
    ∃ verdict, expressionMatches (labelEntries labels) condition.expression = .ok verdict ∧
      (verdict = true ↔ condition.Holds labels) := by
  obtain ⟨key, operator, values⟩ := condition
  have hsame (name : String) : operator.same (.text name) = decide (operator = .text name) :=
    (Value.IsName.text name).same_eq_decide operator
  unfold expressionMatches expression
  rw [lookup?_labelEntries]
  simp only [hsame, decide_eq_true_eq, pure, Except.pure, bind, Except.bind]
  unfold Holds
  by_cases hin : operator = .text "In"
  · refine ⟨_, if_pos hin, ?_⟩
    cases hlabel : labels.lookup key with
    | none => simp [hin]
    | some label => simp [hin]
  by_cases hnotIn : operator = .text "NotIn"
  · refine ⟨_, by rw [if_neg hin, if_pos hnotIn], ?_⟩
    cases hlabel : labels.lookup key with
    | none => simp [hnotIn]
    | some label => simp [hnotIn, List.forall_mem_ne]
  by_cases hexists : operator = .text "Exists"
  · refine ⟨_, by rw [if_neg hin, if_neg hnotIn, if_pos hexists], ?_⟩
    simp [hexists, Option.isSome_iff_ne_none]
  by_cases hnotExists : operator = .text "DoesNotExist"
  · refine ⟨_, by rw [if_neg hin, if_neg hnotIn, if_neg hexists, if_pos hnotExists], ?_⟩
    simp [hnotExists]
  rw [if_neg hin, if_neg hnotIn, if_neg hexists, if_neg hnotExists]
  by_cases hgt : operator = .text "Gt"
  · obtain ⟨hshort, hvalues⟩ := h (.inl hgt)
    obtain ⟨verdict, hverdict, hiff⟩ := comparesWithAll_texts hshort hvalues
    rw [if_pos hgt]
    exact ⟨verdict, hverdict, by simp [hgt, hiff]⟩
  by_cases hlt : operator = .text "Lt"
  · obtain ⟨hshort, hvalues⟩ := h (.inr hlt)
    obtain ⟨verdict, hverdict, hiff⟩ := comparesWithAll_texts hshort hvalues
    rw [if_neg hgt, if_pos hlt]
    exact ⟨verdict, hverdict, by simp [hlt, hiff]⟩
  rw [if_neg hgt, if_neg hlt]
  exact ⟨false, rfl, by simp [hin, hnotIn, hexists, hnotExists, hgt, hlt]⟩

/-- Integers are compared, the label denotes one, and the label or a listed value has more digits than
are read. -/
def Balks (labels : List (String × String)) (condition : Condition) : Prop :=
  (condition.operator = .text "Gt" ∨ condition.operator = .text "Lt") ∧
    ∃ label ∈ labels.lookup condition.key, (∃ n, Denotes label n) ∧
      ∃ text ∈ label :: condition.values, ¬ IsShort text

theorem IsReadable.not_balks {labels : List (String × String)} {condition : Condition}
    (h : condition.IsReadable labels) : ¬ condition.Balks labels := by
  rintro ⟨hcompares, label, hlabel, -, text, htext, hlong⟩
  obtain ⟨hshort, hvalues⟩ := h hcompares
  rcases List.mem_cons.1 htext with rfl | hvalue
  · exact hlong (hshort text hlabel)
  · exact hlong (hvalues text hvalue)

theorem expressionMatches_of_compares {condition : Condition}
    (h : condition.operator = .text "Gt" ∨ condition.operator = .text "Lt")
    (labels : List (String × String)) :
    ∃ compare, expressionMatches (labelEntries labels) condition.expression =
      comparesWithAll compare ((labels.lookup condition.key).map .text)
        (condition.values.map .text) := by
  unfold expressionMatches expression
  rw [lookup?_labelEntries]
  rcases h with h | h
  · exact ⟨_, by rw [h]; rfl⟩
  · exact ⟨_, by rw [h]; rfl⟩

/-- Integers are compared only with a label that denotes one. -/
theorem exists_denotes_of_holds {labels : List (String × String)} {condition : Condition}
    (hcompares : condition.operator = .text "Gt" ∨ condition.operator = .text "Lt")
    (h : condition.Holds labels) : ∃ label ∈ labels.lookup condition.key, ∃ n, Denotes label n := by
  rcases h with ⟨hoperator, -⟩ | ⟨hoperator, -⟩ | ⟨hoperator, -⟩ | ⟨hoperator, -⟩ |
    ⟨-, label, hlabel, n, hn, -⟩ | ⟨-, label, hlabel, n, hn, -⟩
  · simp [hoperator] at hcompares
  · simp [hoperator] at hcompares
  · simp [hoperator] at hcompares
  · simp [hoperator] at hcompares
  · exact ⟨label, hlabel, n, hn⟩
  · exact ⟨label, hlabel, n, hn⟩

/-- The check of a condition that does not balk tells whether it holds. -/
theorem expressionMatches_of_not_balks {labels : List (String × String)} {condition : Condition}
    (h : ¬ condition.Balks labels) :
    ∃ verdict, expressionMatches (labelEntries labels) condition.expression = .ok verdict ∧
      (verdict = true ↔ condition.Holds labels) := by
  by_cases hreadable : condition.IsReadable labels
  · exact expressionMatches_expression hreadable
  -- Something is too long to be read, so the label denotes no integer, or the condition would balk.
  obtain ⟨hcompares, hlong⟩ := Classical.not_imp.1 hreadable
  have hnone : ∀ text ∈ labels.lookup condition.key, ∀ n, ¬ Denotes text n := by
    intro text htext n hn
    refine hlong ⟨fun label hlabel ↦ ?_, fun value hvalue ↦ ?_⟩
    · obtain rfl : text = label := Option.mem_unique htext hlabel
      by_contra hlabelLong
      exact h ⟨hcompares, text, htext, ⟨n, hn⟩, text, List.mem_cons_self, hlabelLong⟩
    · by_contra hvalueLong
      exact h ⟨hcompares, text, htext, ⟨n, hn⟩, value, List.mem_cons_of_mem text hvalue, hvalueLong⟩
  obtain ⟨compare, hmatches⟩ := expressionMatches_of_compares hcompares labels
  refine ⟨false, by rw [hmatches, comparesWithAll_of_no_integer hnone], ?_⟩
  refine iff_of_false Bool.false_ne_true fun hholds ↦ ?_
  obtain ⟨label, hlabel, n, hn⟩ := exists_denotes_of_holds hcompares hholds
  exact hnone label hlabel n hn

end Condition

/-- The conditions that do not hold. -/
def unmetConditions (labels : List (String × String)) (conditions : List Condition) : List Condition :=
  conditions.filter fun condition ↦ ¬ condition.Holds labels

theorem unmatchedExpressions_expressions {labels : List (String × String)} {conditions : List Condition}
    (h : ∀ condition ∈ conditions, ¬ condition.Balks labels) :
    unmatchedExpressions (labelEntries labels) (conditions.map Condition.expression) =
      .ok ((unmetConditions labels conditions).map Condition.expression) := by
  induction conditions with
  | nil => rfl
  | cons condition rest ih =>
    obtain ⟨verdict, hverdict, hiff⟩ :=
      Condition.expressionMatches_of_not_balks (h condition List.mem_cons_self)
    rw [List.map_cons, unmatchedExpressions, hverdict,
      ih fun c hc ↦ h c (List.mem_cons_of_mem condition hc)]
    by_cases hholds : condition.Holds labels
    · have hskip : unmetConditions labels (condition :: rest) = unmetConditions labels rest :=
        List.filter_cons_of_neg (by simpa using hholds)
      rw [hskip, hiff.2 hholds]
      rfl
    · have hkeep : unmetConditions labels (condition :: rest) =
          condition :: unmetConditions labels rest := List.filter_cons_of_pos (by simpa using hholds)
      rw [hkeep, Bool.eq_false_iff.2 (mt hiff.1 hholds)]
      rfl

/-! ## Terms -/

theorem unmetConditions_eq_nil_iff {labels : List (String × String)} {conditions : List Condition} :
    unmetConditions labels conditions = [] ↔ ∀ condition ∈ conditions, condition.Holds labels := by
  simp [unmetConditions, List.filter_eq_nil_iff]

theorem unmetExpression_expression (condition : Condition) :
    unmetExpression condition.expression = .ok condition.requirement := by
  have htexts : condition.expression.values.mapM Value.display = .ok condition.values := by
    change (condition.values.map Value.text).mapM Value.display = _
    rw [List.mapM_map]
    have hdisplay := mapM_eq_ok_map fun value (_ : value ∈ condition.values) ↦ Value.display_text value
    rw [List.map_id'] at hdisplay
    exact hdisplay
  rw [unmetExpression, htexts]
  rfl

section

variable {labels : List (String × String)} {term : List Condition} {terms : List (List Condition)}

theorem unmetAffinityAfter_cons_of_holds (hterm : ∀ condition ∈ term, ¬ condition.Balks labels)
    (hne : term ≠ []) (hholds : ∀ condition ∈ term, condition.Holds labels)
    (collected : List UnmetRequirement) (rest : List SelectorTerm) :
    unmetAffinityAfter (labelEntries labels) collected (Condition.term term :: rest) = .ok [] := by
  have hsome : (Condition.term term).matchExpressions.isEmpty = false := by
    simpa [Condition.term, List.isEmpty_eq_false_iff] using hne
  rw [unmetAffinityAfter, hsome, Condition.term, unmatchedExpressions_expressions hterm,
    unmetConditions_eq_nil_iff.2 hholds]
  rfl

/-- A term that is not met leaves its conditions that do not hold; without conditions it leaves none. -/
theorem unmetAffinityAfter_cons_of_unmet (hterm : ∀ condition ∈ term, ¬ condition.Balks labels)
    (hunmet : term ≠ [] → ¬ ∀ condition ∈ term, condition.Holds labels)
    (collected : List UnmetRequirement) (rest : List SelectorTerm) :
    unmetAffinityAfter (labelEntries labels) collected (Condition.term term :: rest) =
      unmetAffinityAfter (labelEntries labels)
        (collected ++ (unmetConditions labels term).map Condition.requirement) rest := by
  rw [unmetAffinityAfter]
  by_cases hne : term = []
  · simp [hne, Condition.term, unmetConditions]
  · have hsome : ¬ (Condition.term term).matchExpressions.isEmpty = true := by
      simpa [Condition.term, List.isEmpty_iff] using hne
    rw [if_neg hsome, Condition.term, unmatchedExpressions_expressions hterm]
    have hleft : (unmetConditions labels term).map Condition.expression ≠ [] := by
      simpa [unmetConditions_eq_nil_iff] using hunmet hne
    obtain ⟨first, others, hcons⟩ := List.exists_cons_of_ne_nil hleft
    have hrequirements : (first :: others).mapM unmetExpression =
        .ok ((unmetConditions labels term).map Condition.requirement) := by
      rw [← hcons, List.mapM_map]
      exact mapM_eq_ok_map fun condition _ ↦ unmetExpression_expression condition
    rw [hcons]
    change ((first :: others).mapM unmetExpression >>= fun requirements ↦
      unmetAffinityAfter (labelEntries labels) (collected ++ requirements) rest) = _
    rw [hrequirements]
    rfl

/-- A condition balks in a term that is reached: one before which no term is met. -/
def BalksWithin (labels : List (String × String)) : List (List Condition) → Prop
  | [] => False
  | term :: rest => (∃ condition ∈ term, condition.Balks labels) ∨
      (term = [] ∨ ∃ condition ∈ term, ¬ condition.Holds labels) ∧ BalksWithin labels rest

theorem not_balksWithin (h : ∀ term ∈ terms, ∀ condition ∈ term, condition.IsReadable labels) :
    ¬ BalksWithin labels terms := by
  induction terms with
  | nil => exact id
  | cons term rest ih =>
    rintro (⟨condition, hcondition, hbalks⟩ | ⟨-, hrest⟩)
    · exact (h term List.mem_cons_self condition hcondition).not_balks hbalks
    · exact ih (fun t ht ↦ h t (List.mem_cons_of_mem term ht)) hrest

/-- What earlier terms have left is forgotten as soon as a term with conditions is met, and kept when
none is. -/
theorem unmetAffinityAfter_of_not_balksWithin (h : ¬ BalksWithin labels terms)
    (collected : List UnmetRequirement) :
    unmetAffinityAfter (labelEntries labels) collected (terms.map Condition.term) =
      .ok (if ∃ term ∈ terms, term ≠ [] ∧ ∀ condition ∈ term, condition.Holds labels then []
        else collected ++ (unmetConditions labels terms.flatten).map Condition.requirement) := by
  induction terms generalizing collected with
  | nil => simp [unmetAffinityAfter, unmetConditions]
  | cons term rest ih =>
    have hterm : ∀ condition ∈ term, ¬ condition.Balks labels :=
      fun condition hcondition hbalks ↦ h (.inl ⟨condition, hcondition, hbalks⟩)
    rw [List.map_cons]
    by_cases hfirst : term ≠ [] ∧ ∀ condition ∈ term, condition.Holds labels
    · rw [unmetAffinityAfter_cons_of_holds hterm hfirst.1 hfirst.2,
        if_pos ⟨term, List.mem_cons_self, hfirst⟩]
    · have hrest : ¬ BalksWithin labels rest := by
        refine fun hrest ↦ h (.inr ⟨?_, hrest⟩)
        simpa [or_iff_not_imp_left] using hfirst
      rw [unmetAffinityAfter_cons_of_unmet hterm (not_and.1 hfirst), ih hrest]
      simp [unmetConditions, hfirst]

theorem unmetAffinityAfter_of_met
    (h : ∀ term ∈ terms, ∀ condition ∈ term, condition.IsReadable labels)
    (hmet : ∃ term ∈ terms, term ≠ [] ∧ ∀ condition ∈ term, condition.Holds labels)
    (collected : List UnmetRequirement) :
    unmetAffinityAfter (labelEntries labels) collected (terms.map Condition.term) = .ok [] := by
  rw [unmetAffinityAfter_of_not_balksWithin (not_balksWithin h), if_pos hmet]

theorem unmetAffinityAfter_of_unmet
    (h : ∀ term ∈ terms, ∀ condition ∈ term, condition.IsReadable labels)
    (hunmet : ∀ term ∈ terms, term ≠ [] → ¬ ∀ condition ∈ term, condition.Holds labels)
    (collected : List UnmetRequirement) :
    unmetAffinityAfter (labelEntries labels) collected (terms.map Condition.term) =
      .ok (collected ++ (unmetConditions labels terms.flatten).map Condition.requirement) := by
  rw [unmetAffinityAfter_of_not_balksWithin (not_balksWithin h), if_neg]
  rintro ⟨term, hterm, hne, hholds⟩
  exact hunmet term hterm hne hholds

end

/-- The affinity of a pod is met when it has no condition at all or all conditions of a term, at least
one, hold; otherwise every condition that does not hold is reported, term by term. -/
theorem unmetAffinity_decides (labels : List (String × String)) (terms : List (List Condition))
    (h : ∀ term ∈ terms, ∀ condition ∈ term, condition.IsReadable labels) :
    (unmetAffinity (labelEntries labels) (terms.map Condition.term) = .ok [] ↔
      (∀ term ∈ terms, term = []) ∨
        ∃ term ∈ terms, term ≠ [] ∧ ∀ condition ∈ term, condition.Holds labels) ∧
    (unmetAffinity (labelEntries labels) (terms.map Condition.term) ≠ .ok [] →
      unmetAffinity (labelEntries labels) (terms.map Condition.term) =
        .ok ((terms.flatten.filter fun condition ↦ ¬ condition.Holds labels).map
          Condition.requirement)) := by
  unfold unmetAffinity
  by_cases hmet : ∃ term ∈ terms, term ≠ [] ∧ ∀ condition ∈ term, condition.Holds labels
  · rw [unmetAffinityAfter_of_met h hmet]
    exact ⟨iff_of_true rfl (.inr hmet), fun hne ↦ absurd rfl hne⟩
  · have hunmet : ∀ term ∈ terms, term ≠ [] → ¬ ∀ condition ∈ term, condition.Holds labels :=
      fun term hterm hne hholds ↦ hmet ⟨term, hterm, hne, hholds⟩
    rw [unmetAffinityAfter_of_unmet h hunmet, List.nil_append]
    refine ⟨?_, fun _ ↦ rfl⟩
    rw [or_iff_left hmet, Except.ok.injEq, List.map_eq_nil_iff, unmetConditions_eq_nil_iff]
    constructor
    · intro hall term hterm
      by_contra hne
      exact hunmet term hterm hne fun condition hcondition ↦
        hall condition (List.mem_flatten_of_mem hterm hcondition)
    · intro hempty condition hcondition
      obtain ⟨term, hterm, hmem⟩ := List.mem_flatten.1 hcondition
      rw [hempty term hterm] at hmem
      cases hmem

/-- A machine with twelve cores is welcome by the last of three terms; with four, each of the conditions
on its cores is reported, and so is the one on a zone. -/
theorem unmetAffinity_decides_cores :
    let terms : List (List Condition) :=
      [[], [⟨"cores", .text "Gt", ["4", "-1"]⟩, ⟨"zone", .text "Exists", []⟩],
        [⟨"cores", .text "NotIn", ["4"]⟩, ⟨"cores", .text "Gt", ["08"]⟩]]
    unmetAffinity (labelEntries [("cores", "12")]) (terms.map Condition.term) = .ok [] ∧
    unmetAffinity (labelEntries [("cores", "4")]) (terms.map Condition.term) =
      .ok [⟨.text "cores", .text "[4, -1]", some ("Operator", .text "Gt")⟩,
        ⟨.text "zone", .text "[]", some ("Operator", .text "Exists")⟩,
        ⟨.text "cores", .text "[4]", some ("Operator", .text "NotIn")⟩,
        ⟨.text "cores", .text "[08]", some ("Operator", .text "Gt")⟩] := by
  intro terms
  have htwelve : ∀ term ∈ terms, ∀ condition ∈ term,
      ∀ text ∈ ([("cores", "12")].lookup condition.key).toList ++ condition.values,
        text.length ≤ Text.digitLimit := by decide
  have hfour : ∀ term ∈ terms, ∀ condition ∈ term,
      ∀ text ∈ ([("cores", "4")].lookup condition.key).toList ++ condition.values,
        text.length ≤ Text.digitLimit := by decide
  have hmet := unmetAffinity_decides [("cores", "12")] terms fun term hterm condition hcondition ↦
    Condition.isReadable_of_length_le (htwelve term hterm condition hcondition)
  have hunmet := unmetAffinity_decides [("cores", "4")] terms fun term hterm condition hcondition ↦
    Condition.isReadable_of_length_le (hfour term hterm condition hcondition)
  refine ⟨hmet.1.2 (by decide +kernel), (hunmet.2 (mt hunmet.1.1 (by decide +kernel))).trans ?_⟩
  decide +kernel

end ClusterAudit.Scheduling
