import ClusterAudit.Text.Blank
import ClusterAudit.Text.DecimalDigit

/-!
# Numerals

Two ways of reading an integer are in use.  The lenient numeral has blanks around it, an optional
sign, decimal digits of any script and single underscores between digits.  The strict numeral is an
optional minus followed by basic digits only.  Neither may have more digits than `digitLimit`, where
leading zeros count and the sign and the underscores do not.  An integer that has more digits than that
is not written either.
-/

namespace ClusterAudit.Text

/-- The greatest number of digits of an integer that is read or written. -/
def digitLimit : Nat := 4300

def isWritable (n : Int) : Bool :=
  n.natAbs < Nat.pow 10 digitLimit

/-- Why a text is not read as an integer. -/
inductive NumeralFault where
  | malformed
  | tooLong (digits : Nat)
deriving DecidableEq, Repr

/-- The digits of a run in which single underscores may stand between digits. -/
def readDigits : List Char → Option (List Nat)
  | [] => none
  | c :: rest =>
    match digitValue? c, rest with
    | none, _ => none
    | some d, [] => some [d]
    | some d, '_' :: more => (readDigits more).map (d :: ·)
    | some d, next :: more => (readDigits (next :: more)).map (d :: ·)

/-- The number that the digits denote, most significant digit first. -/
def ofDigits (digits : List Nat) : Nat :=
  digits.foldl (fun value d ↦ 10 * value + d) 0

/-- The number that basic digits denote. -/
def basicNumber (cs : List Char) : Nat :=
  cs.foldl (fun n c ↦ 10 * n + (c.toNat - '0'.toNat)) 0

/-- The sign, negative or not, and what follows it. -/
def splitSign : List Char → Bool × List Char
  | '-' :: rest => (true, rest)
  | '+' :: rest => (false, rest)
  | rest => (false, rest)

def signed (negative : Bool) (magnitude : Nat) : Int :=
  if negative then -magnitude else magnitude

/-- The integer of the given sign and digits, if the digits are not too many. -/
def ofSignedDigits (negative : Bool) (digits : List Nat) : Except NumeralFault Int :=
  if digits.length ≤ digitLimit then .ok (signed negative (ofDigits digits))
  else .error (.tooLong digits.length)

/-- The integer that a lenient numeral denotes. -/
def readInteger (text : String) : Except NumeralFault Int :=
  let (negative, body) := splitSign (trimList isNumeralBlank text.toList)
  match readDigits body with
  | none => .error .malformed
  | some digits => ofSignedDigits negative digits

def readBasicDigits (cs : List Char) : Option (List Nat) :=
  if cs.isEmpty || !cs.all Char.isDigit then none
  else some (cs.map fun c ↦ c.toNat - '0'.toNat)

def strictNumeral? (text : String) : Option (Bool × List Nat) :=
  match text.toList with
  | '-' :: body => (readBasicDigits body).map (true, ·)
  | body => (readBasicDigits body).map (false, ·)

end ClusterAudit.Text
