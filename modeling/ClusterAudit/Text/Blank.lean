/-!
# Blank characters

Two sets of blank characters are in use.  Text is trimmed of every character with the Unicode
property White_Space and of the four information separators U+001C to U+001F; around a numeral the
separators are not blank.  `trim` removes the blanks at both ends, so that what is left neither
starts nor ends with one.
-/

namespace ClusterAudit.Text

/-- Whether the code point of the character lies in one of the inclusive ranges. -/
def inRanges (ranges : List (Nat × Nat)) (c : Char) : Bool :=
  ranges.any fun range ↦ range.1 ≤ c.toNat && c.toNat ≤ range.2

/-- Inclusive ranges of the characters with the property White_Space. -/
def whiteSpaceRanges : List (Nat × Nat) :=
  [(0x9, 0xd), (0x20, 0x20), (0x85, 0x85), (0xa0, 0xa0), (0x1680, 0x1680), (0x2000, 0x200a),
    (0x2028, 0x2029), (0x202f, 0x202f), (0x205f, 0x205f), (0x3000, 0x3000)]

/-- Whether the character may stand around a numeral. -/
def isNumeralBlank (c : Char) : Bool :=
  inRanges whiteSpaceRanges c

def isBlank (c : Char) : Bool :=
  isNumeralBlank c || (0x1c ≤ c.toNat && c.toNat ≤ 0x1f)

/-- The list without the characters of the class at its two ends. -/
def trimList (blank : Char → Bool) (cs : List Char) : List Char :=
  ((cs.dropWhile blank).reverse.dropWhile blank).reverse

/-- The text without the blanks at its two ends. -/
def trim (text : String) : String :=
  String.ofList (trimList isBlank text.toList)

/-- Nothing is left of a text of blanks. -/
theorem trimList_eq_nil_of_all {blank : Char → Bool} {cs : List Char} (h : cs.all blank) :
    trimList blank cs = [] := by
  have hdrop : cs.dropWhile blank = [] := by
    induction cs with
    | nil => rfl
    | cons c rest ih => simp_all [List.dropWhile]
  simp [trimList, hdrop]

end ClusterAudit.Text
