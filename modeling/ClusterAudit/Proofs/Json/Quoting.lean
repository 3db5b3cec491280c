import ClusterAudit.Json.Printer
import ClusterAudit.Json.Reader
import Mathlib.Data.List.Basic
import Mathlib.Data.Nat.Notation
import Mathlib.Tactic.SplitIfs

/-!
# Texts in quotes

A quoted text is read back character by character: a character stands for itself, has an escape of one
letter or is escaped by its code units, which are one for a character of the first plane and a surrogate
pair for any other one.
-/

namespace ClusterAudit.Json

/-! ## Code units -/

theorem hexCode?_concat {digits : List Char} {code d : ℕ} (h : hexCode? digits = some code)
    (hd : d < 16) : hexCode? (digits ++ [Nat.digitChar d]) = some (16 * code + d) := by
  have hvalue : Text.hexValue? (Nat.digitChar d) = some d := by
    revert d
    decide
  unfold hexCode? at h ⊢
  rw [List.foldl_append, h, List.foldl_cons, List.foldl_nil, hvalue]
  rfl

theorem hexCode?_zeros (n : ℕ) : hexCode? (List.replicate n '0') = some 0 := by
  induction n with
  | zero => rfl
  | succ n ih =>
    have hzero : (0 : ℕ) < 16 := by decide
    rw [List.replicate_succ']
    exact hexCode?_concat ih hzero

theorem hexCode?_toDigits (zeros n : ℕ) :
    hexCode? (List.replicate zeros '0' ++ Nat.toDigits 16 n) = some n := by
  induction n using Nat.strongRecOn with
  | ind n ih =>
    rw [Nat.toDigits_eq_if (by decide)]
    split
    · rename_i hlt
      rw [hexCode?_concat (hexCode?_zeros zeros) hlt, Nat.mul_zero, Nat.zero_add]
    · rename_i hge
      rw [← List.append_assoc, hexCode?_concat (ih (n / 16) (by omega)) (Nat.mod_lt n (by decide))]
      exact congrArg some (Nat.div_add_mod n 16)

/-- A code unit is escaped by four digits. -/
theorem exists_digits_of_unitEscape {unit : ℕ} (h : unit < 0x10000) :
    ∃ a b c d, (unitEscape unit).toList = ['\\', 'u', a, b, c, d] ∧
      hexCode? [a, b, c, d] = some unit := by
  have hlength : (Nat.toDigits 16 unit).length ≤ 4 :=
    (Nat.length_toDigits_le_iff (by decide) (by decide)).2 h
  have hcode := hexCode?_toDigits (4 - (Nat.toDigits 16 unit).length) unit
  have hfour : (List.replicate (4 - (Nat.toDigits 16 unit).length) '0' ++
      Nat.toDigits 16 unit).length = 4 := by
    rw [List.length_append, List.length_replicate]
    omega
  obtain ⟨a, b, c, d, hdigits⟩ := List.length_eq_four.1 hfour
  rw [hdigits] at hcode
  refine ⟨a, b, c, d, ?_, hcode⟩
  have hopening : "\\u".toList = ['\\', 'u'] := rfl
  rw [unitEscape, Text.hexadecimal, hdigits, String.toList_append, hopening, String.toList_ofList]
  rfl

theorem readText_unitEscape (before : List ℕ) {unit : ℕ} (h : unit < 0x10000) (rest : List Char) :
    readText before ((unitEscape unit).toList ++ rest) = readText (unit :: before) rest := by
  obtain ⟨a, b, c, d, htext, hcode⟩ := exists_digits_of_unitEscape h
  rw [htext]
  simp [readText, hcode]

/-! ## Characters -/

def codeUnits (c : Char) : List ℕ :=
  if c.toNat < 0x10000 then [c.toNat]
  else [0xd800 + (c.toNat - 0x10000) / 0x400, 0xdc00 + (c.toNat - 0x10000) % 0x400]

/-- The code points of characters leave out those of surrogates. -/
theorem toNat_lt (c : Char) : c.toNat < 0xd800 ∨ 0xdfff < c.toNat ∧ c.toNat < 0x110000 :=
  c.valid

/-- A character in quotes is read as its code units. -/
theorem readText_quotedChar (before : List ℕ) (c : Char) (rest : List Char) :
    readText before ((quotedChar c).toList ++ rest) =
      readText ((codeUnits c).reverse ++ before) rest := by
  have hrange := toNat_lt c
  unfold quotedChar
  split_ifs with hquote hbackslash hfeed hreturn htab hform hback hplain hfirst
  · subst hquote
    rfl
  · subst hbackslash
    rfl
  · subst hfeed
    rfl
  · subst hreturn
    rfl
  · subst htab
    rfl
  · subst hform
    rfl
  · subst hback
    rfl
  · have hlow : c.toNat ≤ 126 := of_decide_eq_true (Bool.and_eq_true_iff.1 hplain).2
    rw [codeUnits, if_pos (by omega)]
    simp [readText, hbackslash]
  · rw [codeUnits, if_pos hfirst]
    exact readText_unitEscape before hfirst rest
  · have hhigh : 0xd800 + (c.toNat - 0x10000) / 0x400 < 0x10000 := by omega
    have hlow : 0xdc00 + (c.toNat - 0x10000) % 0x400 < 0x10000 := by omega
    rw [codeUnits, if_neg hfirst, String.toList_append, List.append_assoc,
      readText_unitEscape before hhigh, readText_unitEscape _ hlow]
    rfl

/-- The characters of code units are those that were escaped by them. -/
theorem ofCodePoints_codeUnits (cs : List Char) :
    Text.ofCodePoints none (cs.flatMap codeUnits) = cs := by
  induction cs with
  | nil => rfl
  | cons c rest ih =>
    have hrange := toNat_lt c
    rw [List.flatMap_cons, codeUnits]
    split
    · have hhigh : Text.isHighSurrogate c.toNat = false := by
        simp [Text.isHighSurrogate]
        omega
      have hlow : Text.isLowSurrogate c.toNat = false := by
        simp [Text.isLowSurrogate]
        omega
      rw [List.singleton_append, Text.ofCodePoints, hhigh, hlow]
      simp [ih, Char.ofNat_toNat]
    · have hhigh : Text.isHighSurrogate (0xd800 + (c.toNat - 0x10000) / 0x400) = true := by
        simp [Text.isHighSurrogate]
        omega
      have hlow : Text.isLowSurrogate (0xdc00 + (c.toNat - 0x10000) % 0x400) = true := by
        simp [Text.isLowSurrogate]
        omega
      have hcode : 0x10000 + (0xd800 + (c.toNat - 0x10000) / 0x400 - 0xd800) * 0x400 +
          (0xdc00 + (c.toNat - 0x10000) % 0x400 - 0xdc00) = c.toNat := by
        omega
      rw [List.cons_append, List.singleton_append, Text.ofCodePoints, hhigh]
      simp only [if_true]
      rw [Text.ofCodePoints]
      simp only [hlow, if_true, hcode, Char.ofNat_toNat, ih]

/-! ## Texts -/

theorem readText_quotedChars (before : List ℕ) (cs rest : List Char) :
    readText before (cs.flatMap (fun c ↦ (quotedChar c).toList) ++ rest) =
      readText ((cs.flatMap codeUnits).reverse ++ before) rest := by
  induction cs generalizing before with
  | nil => rfl
  | cons c cs ih =>
    rw [List.flatMap_cons, List.append_assoc, readText_quotedChar, ih, List.flatMap_cons,
      List.reverse_append, List.append_assoc]

/-- A text in quotes is read back up to the closing quote. -/
theorem exists_quoted (text : String) : ∃ inner, (quoted text).toList = '"' :: inner ∧
    ∀ rest, readText [] (inner ++ rest) = some (text, rest) := by
  refine ⟨text.toList.flatMap (fun c ↦ (quotedChar c).toList) ++ ['"'], ?_, fun rest ↦ ?_⟩
  · have hjoined : (String.join (text.toList.map quotedChar)).toList =
        text.toList.flatMap fun c ↦ (quotedChar c).toList := by
      rw [String.toList_join, List.flatMap_map]
    rw [quoted, String.toList_append, String.toList_append, hjoined]
    rfl
  · rw [List.append_assoc, readText_quotedChars, List.append_nil, List.singleton_append, readText,
      List.reverse_reverse, ofCodePoints_codeUnits, String.ofList_toList]

end ClusterAudit.Json
