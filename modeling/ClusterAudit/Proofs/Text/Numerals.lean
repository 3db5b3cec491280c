import ClusterAudit.Text.Numeral
import Mathlib.Data.List.DropRight

/-!
# Numerals among blanks

Trimming a text removes the blanks around its core and nothing else.  What is written for an integer has
no blanks in it, so an integer of few digits is read back from what is written for it, whatever blanks
stand around that.
-/

namespace ClusterAudit.Text

/-! ## Trimming -/

theorem isBlank_of_isNumeralBlank {c : Char} (h : isNumeralBlank c) : isBlank c := by
  simp [isBlank, h]

theorem toNat_of_isDigit {c : Char} (h : c.isDigit) : 48 ≤ c.toNat ∧ c.toNat ≤ 57 := by
  simpa [Char.isDigit, UInt32.le_iff_toNat_le] using h

theorem not_isBlank_of_isDigit {c : Char} (h : c.isDigit) : ¬isBlank c := by
  have hrange := toNat_of_isDigit h
  simp only [isBlank, isNumeralBlank, inRanges, whiteSpaceRanges, List.any_cons, List.any_nil,
    Bool.or_false, Bool.or_eq_true, Bool.and_eq_true, decide_eq_true_eq]
  omega

theorem trimList_eq_rdropWhile (blank : Char → Bool) (cs : List Char) :
    trimList blank cs = (cs.dropWhile blank).rdropWhile blank :=
  rfl

theorem dropWhile_append_of_all {blank : Char → Bool} {before cs : List Char}
    (h : ∀ c ∈ before, blank c) : (before ++ cs).dropWhile blank = cs.dropWhile blank := by
  rw [List.dropWhile_append, List.dropWhile_eq_nil_iff.2 h]
  rfl

theorem rdropWhile_append_of_all {blank : Char → Bool} {cs after : List Char}
    (h : ∀ c ∈ after, blank c) : (cs ++ after).rdropWhile blank = cs.rdropWhile blank := by
  unfold List.rdropWhile
  rw [List.reverse_append, dropWhile_append_of_all fun c hc ↦ h c (List.mem_reverse.1 hc)]

theorem trimList_surrounded {blank : Char → Bool} {before core after : List Char}
    (hbefore : ∀ c ∈ before, blank c) (hcore : ∀ c ∈ core, ¬blank c) (hne : core ≠ [])
    (hafter : ∀ c ∈ after, blank c) : trimList blank (before ++ core ++ after) = core := by
  have hdrop : (core ++ after).dropWhile blank = core ++ after := by
    obtain ⟨c, rest, rfl⟩ := List.exists_cons_of_ne_nil hne
    exact List.dropWhile_cons_of_neg (hcore c List.mem_cons_self)
  rw [trimList_eq_rdropWhile, List.append_assoc, dropWhile_append_of_all hbefore, hdrop,
    rdropWhile_append_of_all hafter]
  exact List.rdropWhile_eq_self_iff.2 fun hl ↦ hcore _ (List.getLast_mem hl)

/-- What holds of blanks holds throughout a text when it does so between the blanks at the ends. -/
theorem forall_mem_trimList {blank : Char → Bool} (good : Char → Prop)
    (h : ∀ c, blank c → good c) (cs : List Char) :
    (∀ c ∈ trimList blank cs, good c) ↔ ∀ c ∈ cs, good c := by
  have hdrop (cs : List Char) : (∀ c ∈ cs.dropWhile blank, good c) ↔ ∀ c ∈ cs, good c := by
    induction cs with
    | nil => rfl
    | cons c rest ih =>
      by_cases hc : blank c
      · rw [List.dropWhile_cons_of_pos hc, ih, List.forall_mem_cons]
        exact (and_iff_right (h c hc)).symm
      · rw [List.dropWhile_cons_of_neg hc]
  unfold trimList
  simp only [List.mem_reverse, hdrop]

theorem trimList_eq_nil_iff {blank : Char → Bool} {cs : List Char} :
    trimList blank cs = [] ↔ ∀ c ∈ cs, blank c := by
  constructor
  · intro h
    refine (forall_mem_trimList (fun c ↦ blank c = true) (fun _ hc ↦ hc) cs).1 ?_
    rw [h]
    exact List.forall_mem_nil _
  · exact fun h ↦ trimList_eq_nil_of_all (List.all_eq_true.2 h)

/-! ## Written integers -/

theorem digitValue?_of_isDigit {c : Char} (h : c.isDigit) :
    digitValue? c = some (c.toNat - '0'.toNat) := by
  have hrange := toNat_of_isDigit h
  unfold digitValue? digitZeros
  rw [List.find?_cons_of_pos]
  · rfl
  · simp only [Bool.and_eq_true, decide_eq_true_eq]
    omega

theorem readDigits_of_isDigit {cs : List Char} (hne : cs ≠ []) (h : ∀ c ∈ cs, c.isDigit) :
    readDigits cs = some (cs.map fun c ↦ c.toNat - '0'.toNat) := by
  fun_induction readDigits cs with
  | case1 => exact absurd rfl hne
  | case2 c rest hc =>
    rw [digitValue?_of_isDigit (h c List.mem_cons_self)] at hc
    cases hc
  | case3 c d hc =>
    rw [digitValue?_of_isDigit (h c List.mem_cons_self)] at hc
    cases hc
    rfl
  | case4 c d more hc ih =>
    exact absurd (h '_' (List.mem_cons_of_mem _ List.mem_cons_self)) (by decide)
  | case5 c d next more hnext hc ih =>
    rw [digitValue?_of_isDigit (h c List.mem_cons_self)] at hc
    cases hc
    rw [ih (List.cons_ne_nil _ _) fun c hc ↦ h c (List.mem_cons_of_mem _ hc)]
    rfl

/-- The characters with which an integer is written. -/
def decimal (n : Int) : List Char :=
  (if n < 0 then ['-'] else []) ++ Nat.toDigits 10 n.natAbs

theorem toList_toString (n : Int) : (toString n).toList = decimal n := by
  change n.repr.toList = _
  rw [Int.repr_eq_if, decimal]
  by_cases h : n < 0
  · rw [if_neg (by omega), if_pos h, String.toList_append, Nat.toList_repr,
      show (-n).toNat = n.natAbs by omega]
    rfl
  · rw [if_pos (by omega), if_neg h, Nat.toList_repr, show n.toNat = n.natAbs by omega]
    rfl

theorem isDigit_of_mem_toDigits {n : Nat} {c : Char} (h : c ∈ Nat.toDigits 10 n) : c.isDigit :=
  Nat.isDigit_of_mem_toDigits (by decide) (by decide) h

theorem eq_minus_or_isDigit_of_mem_decimal {n : Int} {c : Char} (h : c ∈ decimal n) :
    c = '-' ∨ c.isDigit := by
  rcases List.mem_append.1 h with h | h
  · split at h
    · exact .inl (List.mem_singleton.1 h)
    · cases h
  · exact .inr (isDigit_of_mem_toDigits h)

theorem not_isBlank_of_mem_decimal {n : Int} {c : Char} (h : c ∈ decimal n) : ¬isBlank c := by
  rcases eq_minus_or_isDigit_of_mem_decimal h with rfl | h
  · decide
  · exact not_isBlank_of_isDigit h

theorem decimal_ne_nil (n : Int) : decimal n ≠ [] :=
  List.append_ne_nil_of_right_ne_nil _ Nat.toDigits_ne_nil

/-- What is written for an integer does not start with a blank. -/
theorem exists_decimal_eq_cons (n : Int) : ∃ c rest, decimal n = c :: rest ∧ ¬isBlank c := by
  obtain ⟨c, rest, hdecimal⟩ := List.exists_cons_of_ne_nil (decimal_ne_nil n)
  exact ⟨c, rest, hdecimal, not_isBlank_of_mem_decimal (hdecimal ▸ List.mem_cons_self)⟩

theorem splitSign_decimal (n : Int) :
    splitSign (decimal n) = (decide (n < 0), Nat.toDigits 10 n.natAbs) := by
  unfold decimal
  by_cases h : n < 0
  · simp [h, splitSign]
  · have hne : Nat.toDigits 10 n.natAbs ≠ [] := Nat.toDigits_ne_nil
    obtain ⟨c, rest, hdigits⟩ := List.exists_cons_of_ne_nil hne
    have hc : c.isDigit := isDigit_of_mem_toDigits (hdigits ▸ List.mem_cons_self)
    rw [if_neg h, List.nil_append, hdigits, decide_eq_false h]
    have hminus : c ≠ '-' := fun h ↦ absurd (h ▸ hc) (by decide)
    have hplus : c ≠ '+' := fun h ↦ absurd (h ▸ hc) (by decide)
    simp [splitSign, hminus, hplus]

/-- A written integer of few digits is read back, whatever blanks stand around it. -/
theorem readInteger_decimal {n : Int} {before after : List Char}
    (hbefore : ∀ c ∈ before, isNumeralBlank c) (hafter : ∀ c ∈ after, isNumeralBlank c)
    (hdigits : (Nat.toDigits 10 n.natAbs).length ≤ digitLimit) :
    readInteger (String.ofList (before ++ decimal n ++ after)) = .ok n := by
  have hcore : ∀ c ∈ decimal n, ¬isNumeralBlank c := fun c hc hblank ↦
    not_isBlank_of_mem_decimal hc (isBlank_of_isNumeralBlank hblank)
  have hvalue : ofDigits ((Nat.toDigits 10 n.natAbs).map fun c ↦ c.toNat - '0'.toNat) = n.natAbs := by
    unfold ofDigits
    rw [List.foldl_map]
    exact Nat.ofDigitChars_toDigits (by decide) (by decide)
  unfold readInteger
  rw [String.toList_ofList, trimList_surrounded hbefore hcore (decimal_ne_nil n) hafter,
    splitSign_decimal]
  dsimp only
  rw [readDigits_of_isDigit Nat.toDigits_ne_nil fun c hc ↦ isDigit_of_mem_toDigits hc]
  dsimp only
  rw [ofSignedDigits, List.length_map, if_pos hdigits, hvalue, signed]
  by_cases h : n < 0
  · rw [decide_eq_true h, if_pos rfl]
    exact congrArg Except.ok (by omega)
  · rw [decide_eq_false h, if_neg Bool.false_ne_true]
    exact congrArg Except.ok (by omega)

end ClusterAudit.Text
