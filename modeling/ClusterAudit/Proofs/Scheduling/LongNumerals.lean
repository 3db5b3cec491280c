import ClusterAudit.Proofs.Scheduling.Affinity

/-!
# Affinity with numerals of any length

Comparisons read integers, and a numeral with more digits than are read is a fault.  The label is read
first, and the listed values are read only when it denotes an integer.  So a condition is decided
exactly unless it compares integers, its label denotes one, and the label or a value is too long; and
the affinity of a pod is decided unless such a condition stands in a term that is reached.
-/

namespace ClusterAudit.Scheduling

open Manifest Traversal

/-! ## Numerals that are too long -/

/-- The fault of a numeral that has more digits than are read. -/
def IsTooLong {α : Type} (result : Except Fault α) : Prop :=
  ∃ count, Text.digitLimit < count ∧ result = .error (.numeralTooLong (some count))

theorem IsTooLong.bind {α β : Type} {x : Except Fault α} (h : IsTooLong x) (f : α → Except Fault β) :
    IsTooLong (x >>= f) := by
  obtain ⟨count, hcount, rfl⟩ := h
  exact ⟨count, hcount, rfl⟩

theorem operandInteger_of_long {text : String} {negative : Bool} {digits : List Char}
    (h : IsNumeral text negative digits) (hlong : Text.digitLimit < digits.length) :
    operandInteger (.text text) = .error (.numeralTooLong (some digits.length)) := by
  have hnumeral := strictNumeral?_eq_some_iff.2 ⟨digits, h, rfl⟩
  unfold operandInteger
  dsimp only
  rw [hnumeral]
  dsimp only
  rw [Text.ofSignedDigits, List.length_map, if_neg (not_le.2 hlong)]

theorem isTooLong_operandInteger {text : String} (h : ¬ IsShort text) :
    IsTooLong (operandInteger (.text text)) := by
  unfold IsShort at h
  push Not at h
  obtain ⟨negative, digits, hnumeral, hlong⟩ := h
  exact ⟨digits.length, hlong, operandInteger_of_long hnumeral hlong⟩

/-- The values are read from the first to the last, up to the first one that is too long. -/
theorem isTooLong_operandIntegers {texts : List String} (h : ∃ text ∈ texts, ¬ IsShort text) :
    IsTooLong (operandIntegers (texts.map .text)) := by
  obtain ⟨text, htext, hlong⟩ := h
  obtain ⟨_, -, hfault⟩ := isTooLong_operandInteger hlong
  obtain ⟨first, hfirst⟩ := mapM_eq_error (List.mem_map_of_mem (f := Value.text) htext) hfault
  obtain ⟨value, hvalue, hread⟩ := exists_of_mapM_error hfirst
  obtain ⟨other, -, rfl⟩ := List.mem_map.1 hvalue
  have hother : ¬ IsShort other := by
    intro hshort
    rw [operandInteger_of_isShort hshort] at hread
    cases hread
  obtain ⟨count, hcount, hcause⟩ := isTooLong_operandInteger hother
  rw [hread] at hcause
  cases hcause
  have hall : IsTooLong ((texts.map Value.text).mapM operandInteger) := ⟨count, hcount, hfirst⟩
  exact hall.bind _

/-- A comparison reads the label and then, if this is an integer, the values. -/
theorem isTooLong_comparesWithAll {compare : ℤ → ℤ → Bool} {label : String} {values : List String}
    (hlabel : ∃ n, Denotes label n) (hlong : ∃ text ∈ label :: values, ¬ IsShort text) :
    IsTooLong (comparesWithAll compare (some (.text label)) (values.map .text)) := by
  by_cases hshort : IsShort label
  · obtain ⟨n, hn⟩ := hlabel
    obtain ⟨text, htext, htextLong⟩ := hlong
    have hvalue : text ∈ values := by
      rcases List.mem_cons.1 htext with rfl | hvalue
      · exact absurd hshort htextLong
      · exact hvalue
    rw [comparesWithAll, operandInteger_of_isShort hshort, integerOf?_eq_some_iff.2 hn]
    exact (isTooLong_operandIntegers ⟨text, hvalue, htextLong⟩).bind _
  · exact (isTooLong_operandInteger hshort).bind _

/-! ## Conditions and terms that balk -/

variable {labels : List (String × String)}

theorem isTooLong_expressionMatches {condition : Condition} (h : condition.Balks labels) :
    IsTooLong (expressionMatches (labelEntries labels) condition.expression) := by
  obtain ⟨hcompares, label, hlabel, hinteger, hlong⟩ := h
  obtain ⟨compare, hmatches⟩ := Condition.expressionMatches_of_compares hcompares labels
  rw [hmatches, Option.mem_def.1 hlabel]
  exact isTooLong_comparesWithAll hinteger hlong

/-- The conditions of a term are all checked, so that one that balks is not missed. -/
theorem isTooLong_unmatchedExpressions {conditions : List Condition}
    (h : ∃ condition ∈ conditions, condition.Balks labels) :
    IsTooLong (unmatchedExpressions (labelEntries labels) (conditions.map Condition.expression)) := by
  induction conditions with
  | nil =>
    obtain ⟨condition, hcondition, -⟩ := h
    cases hcondition
  | cons condition rest ih =>
    rw [List.map_cons, unmatchedExpressions]
    by_cases hfirst : condition.Balks labels
    · exact (isTooLong_expressionMatches hfirst).bind _
    · obtain ⟨verdict, hverdict, -⟩ := Condition.expressionMatches_of_not_balks hfirst
      have hrest : ∃ other ∈ rest, other.Balks labels := by
        obtain ⟨other, hother, hbalks⟩ := h
        rcases List.mem_cons.1 hother with rfl | hmem
        · exact absurd hbalks hfirst
        · exact ⟨other, hmem, hbalks⟩
      rw [hverdict]
      exact (ih hrest).bind _

theorem isTooLong_unmetAffinityAfter {terms : List (List Condition)} (h : BalksWithin labels terms)
    (collected : List UnmetRequirement) :
    IsTooLong (unmetAffinityAfter (labelEntries labels) collected (terms.map Condition.term)) := by
  induction terms generalizing collected with
  | nil => cases h
  | cons term rest ih =>
    rw [List.map_cons]
    by_cases hterm : ∃ condition ∈ term, condition.Balks labels
    · have hsome : ¬ (Condition.term term).matchExpressions.isEmpty = true := by
        obtain ⟨condition, hcondition, -⟩ := hterm
        simpa [Condition.term] using List.ne_nil_of_mem hcondition
      rw [unmetAffinityAfter, if_neg hsome]
      exact (isTooLong_unmatchedExpressions hterm).bind _
    · obtain ⟨hunmet, hrest⟩ := h.resolve_left hterm
      have hreads : ∀ condition ∈ term, ¬ condition.Balks labels :=
        fun condition hcondition hbalks ↦ hterm ⟨condition, hcondition, hbalks⟩
      have hfails : term ≠ [] → ¬ ∀ condition ∈ term, condition.Holds labels := by
        simpa [or_iff_not_imp_left] using hunmet
      rw [unmetAffinityAfter_cons_of_unmet hreads hfails]
      exact ih hrest _

/-- A condition is decided unless it balks, and then its check ends with the fault of a numeral that is
too long.  The affinity of a pod is decided, by terms of which one has to be met, unless a condition
balks in a term that is reached, and then its check ends with such a fault. -/
theorem affinity_decided_unless_balking (labels : List (String × String)) :
    (∀ condition : Condition,
      (¬ condition.Balks labels →
        ∃ verdict, expressionMatches (labelEntries labels) condition.expression = .ok verdict ∧
          (verdict = true ↔ condition.Holds labels)) ∧
      (condition.Balks labels →
        IsTooLong (expressionMatches (labelEntries labels) condition.expression))) ∧
    ∀ terms : List (List Condition),
      (¬ BalksWithin labels terms →
        unmetAffinity (labelEntries labels) (terms.map Condition.term) =
          .ok (if ∃ term ∈ terms, term ≠ [] ∧ ∀ condition ∈ term, condition.Holds labels then []
            else (terms.flatten.filter fun condition ↦ ¬ condition.Holds labels).map
              Condition.requirement)) ∧
      (BalksWithin labels terms →
        IsTooLong (unmetAffinity (labelEntries labels) (terms.map Condition.term))) :=
  ⟨fun _ ↦ ⟨Condition.expressionMatches_of_not_balks, isTooLong_expressionMatches⟩, fun _ ↦
    ⟨fun h ↦ unmetAffinityAfter_of_not_balksWithin h [], fun h ↦ isTooLong_unmetAffinityAfter h []⟩⟩

/-- A numeral with one digit more than are read. -/
def nines : String :=
  String.ofList (List.replicate (Text.digitLimit + 1) '9')

theorem isNumeral_nines : IsNumeral nines false (List.replicate (Text.digitLimit + 1) '9') := by
  refine ⟨List.replicate_succ_ne_nil, fun c hc ↦ ?_, by simp [nines]⟩
  rw [List.eq_of_mem_replicate hc]
  decide

theorem not_isShort_nines : ¬ IsShort nines := by
  intro h
  have hlength := h _ _ isNumeral_nines
  rw [List.length_replicate] at hlength
  exact absurd hlength (by decide)

/-- A value that is too long is read when the label is an integer, although another value is none, and
it is not read when the label is none. -/
theorem affinity_decided_unless_balking_nines :
    let condition : Condition := ⟨"cores", .text "Lt", ["many", nines]⟩
    condition.Balks [("cores", "8")] ∧ ¬ BalksWithin [("cores", "eight")] [[condition]] ∧
      IsTooLong (expressionMatches (labelEntries [("cores", "8")]) condition.expression) ∧
      unmetAffinity (labelEntries [("cores", "eight")]) [Condition.term [condition]] =
        .ok [condition.requirement] := by
  intro condition
  have hword : ∀ n, ¬ Denotes "eight" n := by
    intro n hn
    have hnone : integerOf? "eight" = none := by decide +kernel
    rw [integerOf?_eq_some_iff.2 hn] at hnone
    cases hnone
  have hbalks : condition.Balks [("cores", "8")] := by
    refine ⟨.inr rfl, "8", by simp [condition], ⟨8, integerOf?_eq_some_iff.1 (by decide +kernel)⟩, nines,
      ?_, not_isShort_nines⟩
    simp [condition]
  have hreads : ¬ BalksWithin [("cores", "eight")] [[condition]] := by
    rintro (⟨_, hcondition, -, label, hlabel, ⟨n, hn⟩, -⟩ | ⟨-, ⟨⟩⟩)
    obtain rfl := List.mem_singleton.1 hcondition
    obtain rfl : "eight" = label := by simpa [condition] using hlabel
    exact hword n hn
  have hfails : ¬ condition.Holds [("cores", "eight")] := by
    intro hholds
    obtain ⟨label, hlabel, n, hn⟩ := Condition.exists_denotes_of_holds (.inr rfl) hholds
    obtain rfl : "eight" = label := by simpa [condition] using hlabel
    exact hword n hn
  obtain ⟨hconditions, -⟩ := affinity_decided_unless_balking [("cores", "8")]
  obtain ⟨-, hterms⟩ := affinity_decided_unless_balking [("cores", "eight")]
  refine ⟨hbalks, hreads, (hconditions condition).2 hbalks, ((hterms [[condition]]).1 hreads).trans ?_⟩
  simp [hfails]

/-- A numeral that is too long is greater than minus one, but to compare it is a fault. -/
theorem nines_not_compared :
    let condition : Condition := ⟨"cores", .text "Gt", ["-1"]⟩
    condition.Holds [("cores", nines)] ∧
      expressionMatches (labelEntries [("cores", nines)]) condition.expression =
        .error (.numeralTooLong (some 4301)) ∧
      unmetAffinity (labelEntries [("cores", nines)]) [Condition.term [condition]] =
        .error (.numeralTooLong (some 4301)) := by
  intro condition
  have hmatches : expressionMatches (labelEntries [("cores", nines)]) condition.expression =
      .error (.numeralTooLong (some 4301)) := by
    obtain ⟨compare, hmatches⟩ :=
      @Condition.expressionMatches_of_compares condition (.inl rfl) [("cores", nines)]
    have hlabel := operandInteger_of_long isNumeral_nines (by rw [List.length_replicate]; decide)
    rw [List.length_replicate] at hlabel
    rw [hmatches]
    change operandInteger (.text nines) >>= _ = _
    rw [hlabel]
    rfl
  refine ⟨?_, hmatches, ?_⟩
  · have hminus : Denotes "-1" (-1) := integerOf?_eq_some_iff.1 (by decide +kernel)
    refine .inr (.inr (.inr (.inr (.inl ⟨rfl, nines, by simp [condition], _,
      ⟨false, _, isNumeral_nines, rfl⟩, fun value hvalue ↦ ?_⟩))))
    obtain rfl := List.mem_singleton.1 hvalue
    refine ⟨-1, hminus, ?_⟩
    rw [if_neg Bool.false_ne_true]
    exact lt_of_lt_of_le (by decide) (Int.natCast_nonneg _)
  · change (expressionMatches (labelEntries [("cores", nines)]) condition.expression >>= _) >>= _ = _
    rw [hmatches]
    rfl

end ClusterAudit.Scheduling
