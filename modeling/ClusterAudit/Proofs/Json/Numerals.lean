import ClusterAudit.Json.Printer
import ClusterAudit.Json.Reader
import ClusterAudit.Proofs.Text.Numerals

/-!
# Numerals that are read back

An integer is written with digits only and read back as it was.  A finite floating-point number is
written with a point or an exponent, so that it is read back as a floating-point number again.
-/

namespace ClusterAudit

/-! ## Scanning -/

section

variable {α : Type} {p : α → Bool} {first rest : List α}

theorem takeWhile_append_of_stop (hfirst : ∀ a ∈ first, p a) (hrest : ∀ a ∈ rest.head?, ¬p a) :
    (first ++ rest).takeWhile p = first := by
  rw [List.takeWhile_append_of_pos hfirst]
  cases rest with
  | nil => exact List.append_nil first
  | cons a rest => rw [List.takeWhile_cons_of_neg (hrest a rfl), List.append_nil]

theorem dropWhile_append_of_stop (hfirst : ∀ a ∈ first, p a) (hrest : ∀ a ∈ rest.head?, ¬p a) :
    (first ++ rest).dropWhile p = rest := by
  rw [List.dropWhile_append_of_pos hfirst]
  cases rest with
  | nil => rfl
  | cons a rest => exact List.dropWhile_cons_of_neg (hrest a rfl)

end

/-! ## Decimals -/

namespace Decimal

/-- Digits, and behind them a fraction, an exponent or both. -/
structure IsDecimal (whole fraction exponent : List Char) : Prop where
  whole_ne_nil : whole ≠ []
  whole_isDigit : ∀ c ∈ whole, c.isDigit
  fraction_eq : fraction = [] ∨ ∃ digits, fraction = '.' :: digits ∧ ∀ c ∈ digits, c.isDigit
  exponent_eq : exponent = [] ∨ ∃ sign digits, exponent = 'e' :: sign :: digits ∧
    (sign = '-' ∨ sign = '+') ∧ digits ≠ [] ∧ ∀ c ∈ digits, c.isDigit
  marked : fraction ≠ [] ∨ exponent ≠ []

theorem IsDecimal.of_fraction {whole digits : List Char} (hne : whole ≠ [])
    (hwhole : ∀ c ∈ whole, c.isDigit) (hdigits : ∀ c ∈ digits, c.isDigit) :
    IsDecimal whole ('.' :: digits) [] :=
  ⟨hne, hwhole, .inr ⟨digits, rfl, hdigits⟩, .inl rfl, .inl (List.cons_ne_nil _ _)⟩

theorem isDigit_of_mem_zeros {n : ℕ} {c : Char} (h : c ∈ List.replicate n '0') : c.isDigit := by
  rw [List.eq_of_mem_replicate h]
  rfl

/-- Digits in the notation with an exponent, with a point after the first of several. -/
theorem IsDecimal.of_exponent {digits width : List Char} {sign : Char} (hne : digits ≠ [])
    (hdigits : ∀ c ∈ digits, c.isDigit) (hsign : sign = '-' ∨ sign = '+') (hwidth : width ≠ [])
    (hexponent : ∀ c ∈ width, c.isDigit) :
    IsDecimal (digits.take 1) (if digits.length = 1 then [] else '.' :: digits.drop 1)
      ('e' :: sign :: width) where
  whole_ne_nil := by
    rw [Ne, List.take_eq_nil_iff, or_iff_left hne]
    decide
  whole_isDigit c hc := hdigits c (List.mem_of_mem_take hc)
  fraction_eq := by
    split
    · exact .inl rfl
    · exact .inr ⟨_, rfl, fun c hc ↦ hdigits c (List.mem_of_mem_drop hc)⟩
  exponent_eq := .inr ⟨sign, width, rfl, hsign, hwidth, hexponent⟩
  marked := .inr (List.cons_ne_nil _ _)

/-- What a layout writes is a decimal. -/
theorem exists_isDecimal_write (layout : Layout) (d : ℕ) (k : ℤ) :
    ∃ whole fraction exponent, (layout.write d k).toList = whole ++ fraction ++ exponent ∧
      IsDecimal whole fraction exponent := by
  have hdigits : ∀ c ∈ Nat.toDigits 10 d, c.isDigit := fun c hc ↦ Text.isDigit_of_mem_toDigits hc
  have hne : Nat.toDigits 10 d ≠ [] := Nat.toDigits_ne_nil
  unfold Layout.write
  rw [Nat.toList_repr]
  generalize Nat.toDigits 10 d = digits at hdigits hne ⊢
  extract_lets digits' point exponent width
  split
  · split
    · have hopening : "0.".toList = ['0', '.'] := rfl
      refine ⟨['0'], '.' :: (List.replicate (-point).toNat '0' ++ digits), [], ?_,
        .of_fraction (List.cons_ne_nil _ _) (List.forall_mem_singleton.2 rfl)
          (List.forall_mem_append.2 ⟨fun c ↦ isDigit_of_mem_zeros, hdigits⟩)⟩
      rw [String.toList_append, hopening, String.toList_ofList, List.append_nil]
      rfl
    · rename_i hpoint
      split
      · have hclosing : ".0".toList = ['.', '0'] := rfl
        refine ⟨digits ++ List.replicate k.toNat '0', ['.', '0'], [], ?_,
          .of_fraction (by simp [hne]) (List.forall_mem_append.2 ⟨hdigits, fun c ↦ isDigit_of_mem_zeros⟩)
            (List.forall_mem_singleton.2 rfl)⟩
        rw [String.toList_append, hclosing, String.toList_ofList, List.append_nil]
      · refine ⟨digits.take point.toNat, '.' :: digits.drop point.toNat, [], ?_,
          .of_fraction ?_ (fun c hc ↦ hdigits c (List.mem_of_mem_take hc))
            fun c hc ↦ hdigits c (List.mem_of_mem_drop hc)⟩
        · rw [String.toList_ofList, List.append_nil]
        · rw [Ne, List.take_eq_nil_iff, or_iff_left hne]
          omega
  · have hwidth : width = Nat.toDigits 10 exponent.natAbs := Nat.toList_repr
    have hne_width : width ≠ [] := hwidth ▸ Nat.toDigits_ne_nil
    have hexponent : ∀ c ∈ width, c.isDigit := fun c hc ↦ Text.isDigit_of_mem_toDigits (hwidth ▸ hc)
    refine ⟨digits.take 1, if digits.length = 1 then [] else '.' :: digits.drop 1,
      'e' :: (if exponent < 0 then '-' else '+') ::
        (List.replicate (layout.exponentWidth - width.length) '0' ++ width), ?_,
      .of_exponent hne hdigits (by split <;> simp) (by simp [hne_width])
        (List.forall_mem_append.2 ⟨fun c ↦ isDigit_of_mem_zeros, hexponent⟩)⟩
    rw [String.toList_ofList]
    simp [digits']

section

variable {whole fraction exponent : List Char}

theorem IsDecimal.head_exponent (h : IsDecimal whole fraction exponent) :
    ∀ c ∈ exponent.head?, ¬c.isDigit := by
  rcases h.exponent_eq with rfl | ⟨sign, digits, rfl, -, -, -⟩
  · nofun
  · rintro c ⟨⟩
    decide

theorem IsDecimal.splitDigits_eq (h : IsDecimal whole fraction exponent) :
    splitDigits (whole ++ (fraction ++ exponent)) = (whole, fraction.drop 1, exponent) := by
  unfold splitDigits
  rcases h.fraction_eq with rfl | ⟨digits, rfl, hdigits⟩
  · rw [List.nil_append, takeWhile_append_of_stop h.whole_isDigit h.head_exponent]
    dsimp only
    rw [List.drop_left]
    rcases h.exponent_eq with rfl | ⟨sign, digits, rfl, -⟩
    · rfl
    · rfl
  · have hpoint : ∀ c ∈ ('.' :: digits ++ exponent).head?, ¬c.isDigit := by
      rintro c ⟨⟩
      decide
    rw [takeWhile_append_of_stop h.whole_isDigit hpoint]
    dsimp only
    rw [List.drop_left, List.cons_append]
    change (whole, (digits ++ exponent).takeWhile Char.isDigit,
      (digits ++ exponent).drop ((digits ++ exponent).takeWhile Char.isDigit).length) = _
    rw [takeWhile_append_of_stop hdigits h.head_exponent, List.drop_left]
    rfl

theorem IsDecimal.exists_exponent? (h : IsDecimal whole fraction exponent) :
    ∃ n, exponent? exponent = some n := by
  rcases h.exponent_eq with rfl | ⟨sign, digits, rfl, hsign, hne, hdigits⟩
  · exact ⟨0, rfl⟩
  · have hsplit : ∃ negative, Text.splitSign (sign :: digits) = (negative, digits) := by
      rcases hsign with rfl | rfl
      · exact ⟨true, rfl⟩
      · exact ⟨false, rfl⟩
    obtain ⟨negative, hsplit⟩ := hsplit
    have hall : digits.all Char.isDigit = true := List.all_eq_true.2 hdigits
    simp [exponent?, hsplit, hne, hall]

/-- A decimal is read as a number. -/
theorem IsDecimal.exists_read? (h : IsDecimal whole fraction exponent) (negative : Bool) :
    ∃ x, read? negative (whole ++ fraction ++ exponent) = some x := by
  obtain ⟨n, hn⟩ := h.exists_exponent?
  unfold read?
  rw [List.append_assoc, h.splitDigits_eq]
  dsimp only
  rw [hn, List.isEmpty_eq_false_iff.2 h.whole_ne_nil]
  exact ⟨_, rfl⟩

end

end Decimal

/-! ## Numbers -/

namespace Json

open Manifest

theorem basicNumber_toDigits (n : ℕ) : Text.basicNumber (Nat.toDigits 10 n) = n := by
  have hdigits := Nat.ofDigitChars_ten_toDigits (n := n)
  rw [Nat.ofDigitChars_eq_foldl] at hdigits
  exact hdigits

theorem number?_signed (negative : Bool) {body : List Char} (hbody : ∀ c ∈ body.head?, c ≠ '-')
    (hne : body ≠ []) :
    number? ((if negative then ['-'] else []) ++ body) =
      if body.all Char.isDigit then some (.int (Text.signed negative (Text.basicNumber body)))
      else (Decimal.read? negative body).map .float := by
  cases body with
  | nil => exact absurd rfl hne
  | cons c rest =>
    cases negative with
    | true => simp [number?]
    | false => simp [number?, hbody c rfl]

theorem ne_minus_of_isDigit {c : Char} (h : c.isDigit) : c ≠ '-' := by
  rintro rfl
  exact absurd h (by decide)

/-- An integer is read back as it was. -/
theorem number?_decimal (n : ℤ) : number? (Text.decimal n) = some (.int n) := by
  have hdigits : ∀ c ∈ Nat.toDigits 10 n.natAbs, c.isDigit := fun c hc ↦ Text.isDigit_of_mem_toDigits hc
  have hhead : ∀ c ∈ (Nat.toDigits 10 n.natAbs).head?, c ≠ '-' := fun c hc ↦
    ne_minus_of_isDigit (hdigits c (List.mem_of_mem_head? hc))
  have hsign : (if n < 0 then ['-'] else []) = if decide (n < 0) then ['-'] else [] := by simp
  rw [Text.decimal, hsign, number?_signed _ hhead Nat.toDigits_ne_nil,
    if_pos (List.all_eq_true.2 hdigits), basicNumber_toDigits, Text.signed]
  simp only [decide_eq_true_eq, Option.some.injEq, Scalar.int.injEq]
  split <;> omega

/-- A decimal is read as a floating-point number. -/
theorem exists_number?_decimal {whole fraction exponent : List Char}
    (h : Decimal.IsDecimal whole fraction exponent) (negative : Bool) :
    ∃ x, number? ((if negative then ['-'] else []) ++ (whole ++ fraction ++ exponent)) =
      some (.float x) := by
  obtain ⟨x, hx⟩ := h.exists_read? negative
  obtain ⟨c, rest, hwhole⟩ := List.exists_cons_of_ne_nil h.whole_ne_nil
  have hc : c.isDigit := h.whole_isDigit c (hwhole ▸ List.mem_cons_self)
  have hhead : ∀ d ∈ (whole ++ fraction ++ exponent).head?, d ≠ '-' := by
    rw [hwhole]
    rintro d ⟨⟩
    exact ne_minus_of_isDigit hc
  have hmarked : ¬(whole ++ fraction ++ exponent).all Char.isDigit := by
    rw [List.all_eq_true]
    intro hall
    rcases h.marked with hfraction | hexponent
    · obtain ⟨digits, rfl, -⟩ := h.fraction_eq.resolve_left hfraction
      exact absurd (hall '.' (by simp)) (by decide)
    · obtain ⟨sign, digits, rfl, -⟩ := h.exponent_eq.resolve_left hexponent
      exact absurd (hall 'e' (by simp)) (by decide)
  refine ⟨x, ?_⟩
  rw [number?_signed negative hhead (by simp [hwhole]), if_neg hmarked, hx]
  rfl

/-! ## Scalars that are read -/

/-- What may follow a value: the end, a comma, a closing bracket or a blank. -/
def Ends (rest : List Char) : Prop :=
  ∀ c ∈ rest.head?, c = ',' ∨ c = ']' ∨ c = '\x7d' ∨ isBlank c

theorem readScalar_of_number? {cs rest : List Char} {s : Scalar} (hchars : ∀ c ∈ cs, isNumberChar c)
    (hcs : number? cs = some s) (hrest : Ends rest) : readScalar (cs ++ rest) = some (s, rest) := by
  have hstops : ∀ c ∈ rest.head?, ¬isNumberChar c := by
    intro c hc
    rcases hrest c hc with rfl | rfl | rfl | hblank
    · decide
    · decide
    · decide
    · simp only [isBlank, Bool.or_eq_true, decide_eq_true_eq] at hblank
      rcases hblank with ((rfl | rfl) | rfl) | rfl <;> decide
  have hdefault : (number? ((cs ++ rest).takeWhile isNumberChar)).map
      (·, (cs ++ rest).dropWhile isNumberChar) = some (s, rest) := by
    rw [takeWhile_append_of_stop hchars hstops, dropWhile_append_of_stop hchars hstops, hcs]
    rfl
  -- No number starts like a word: a lone minus is none, and no letter but `e` occurs in one.
  cases cs with
  | nil => cases hcs
  | cons c more =>
    have hc := hchars c List.mem_cons_self
    unfold readScalar
    split
    case h_7 => exact hdefault
    case h_6 heq =>
      cases more with
      | nil =>
        cases heq
        cases hcs
      | cons d others =>
        cases heq
        exact absurd (hchars 'I' (by simp)) (by decide)
    all_goals
      rename_i heq
      cases heq
      exact absurd hc (by decide)

/-- Characters with which a value other than a text, a list or a map starts. -/
def isPlainStart (c : Char) : Bool :=
  isNumberChar c || c = 't' || c = 'f' || c = 'n' || c = 'N' || c = 'I'

/-- A text that is read as a scalar, whatever follows the scalar. -/
structure ReadsScalar (cs : List Char) (s : Scalar) : Prop where
  starts : ∃ c rest, cs = c :: rest ∧ isPlainStart c
  reads : ∀ rest, Ends rest → readScalar (cs ++ rest) = some (s, rest)

/-- A word that is read whatever follows it. -/
theorem ReadsScalar.of_word {word : List Char} {s : Scalar}
    (hstart : ∃ c rest, word = c :: rest ∧ isPlainStart c)
    (hword : ∀ rest, readScalar (word ++ rest) = some (s, rest)) : ReadsScalar word s :=
  ⟨hstart, fun rest _ ↦ hword rest⟩

theorem readsScalar_of_number? {cs : List Char} {s : Scalar} (hchars : ∀ c ∈ cs, isNumberChar c)
    (hcs : number? cs = some s) : ReadsScalar cs s := by
  refine ⟨?_, fun rest ↦ readScalar_of_number? hchars hcs⟩
  cases cs with
  | nil => cases hcs
  | cons c rest => exact ⟨c, rest, rfl, by simp [isPlainStart, hchars c List.mem_cons_self]⟩

theorem readsScalar_int (n : ℤ) : ReadsScalar (Text.decimal n) (.int n) := by
  refine readsScalar_of_number? (fun c hc ↦ ?_) (number?_decimal n)
  rcases Text.eq_minus_or_isDigit_of_mem_decimal hc with rfl | hdigit
  · decide
  · simp [isNumberChar, hdigit]

theorem isNumberChar_of_isDecimal {whole fraction exponent : List Char}
    (h : Decimal.IsDecimal whole fraction exponent) :
    ∀ c ∈ whole ++ fraction ++ exponent, isNumberChar c := by
  have hdigit {c : Char} (hc : c.isDigit) : isNumberChar c := by simp [isNumberChar, hc]
  refine List.forall_mem_append.2 ⟨List.forall_mem_append.2
    ⟨fun c hc ↦ hdigit (h.whole_isDigit c hc), ?_⟩, ?_⟩
  · rcases h.fraction_eq with rfl | ⟨digits, rfl, hdigits⟩
    · exact List.forall_mem_nil _
    · exact List.forall_mem_cons.2 ⟨by decide, fun c hc ↦ hdigit (hdigits c hc)⟩
  · rcases h.exponent_eq with rfl | ⟨sign, digits, rfl, hsign, -, hdigits⟩
    · exact List.forall_mem_nil _
    · refine List.forall_mem_cons.2 ⟨by decide, List.forall_mem_cons.2
        ⟨?_, fun c hc ↦ hdigit (hdigits c hc)⟩⟩
      rcases hsign with rfl | rfl <;> decide

theorem exists_readsScalar_decimal {whole fraction exponent : List Char}
    (h : Decimal.IsDecimal whole fraction exponent) (negative : Bool) : ∃ y,
      ReadsScalar ((if negative then ['-'] else []) ++ (whole ++ fraction ++ exponent)) (.float y) := by
  obtain ⟨y, hy⟩ := exists_number?_decimal h negative
  refine ⟨y, readsScalar_of_number? (List.forall_mem_append.2 ⟨?_, isNumberChar_of_isDecimal h⟩) hy⟩
  split
  · exact List.forall_mem_singleton.2 (by decide)
  · exact List.forall_mem_nil _

/-- A floating-point number is read as one. -/
theorem exists_readsScalar_float (x : Binary64) : ∃ y,
    ReadsScalar (Decimal.manifestLayout.writeBinary64 "Infinity" "NaN" x).toList (.float y) := by
  have hsign (body : String) : (if x.isNegative then "-" ++ body else body).toList =
      (if x.isNegative then ['-'] else []) ++ body.toList := by
    cases x.isNegative with
    | true => exact String.toList_append
    | false => rfl
  unfold Decimal.Layout.writeBinary64
  split
  · split
    · exact ⟨.nan, .of_word ⟨'N', _, rfl, by decide⟩ fun rest ↦ rfl⟩
    · split
      · exact ⟨.infinity true, .of_word ⟨'-', _, rfl, by decide⟩ fun rest ↦ rfl⟩
      · exact ⟨.infinity false, .of_word ⟨'I', _, rfl, by decide⟩ fun rest ↦ rfl⟩
  · rename_i m q _
    dsimp only
    rw [hsign]
    by_cases hzero : m = 0
    · rw [if_pos hzero]
      have hzeros : Decimal.IsDecimal ['0'] ['.', '0'] [] :=
        .of_fraction (List.cons_ne_nil _ _) (List.forall_mem_singleton.2 rfl)
          (List.forall_mem_singleton.2 rfl)
      exact exists_readsScalar_decimal hzeros x.isNegative
    · obtain ⟨whole, fraction, exponent, htext, h⟩ := Decimal.exists_isDecimal_write
        Decimal.manifestLayout (Decimal.shortest m q).1 (Decimal.shortest m q).2
      rw [if_neg hzero, htext]
      exact exists_readsScalar_decimal h x.isNegative

end Json

end ClusterAudit
