import ClusterAudit.Binary64
import ClusterAudit.Text.Numeral

/-!
# Reading decimals

A decimal has digits, possibly a point among or around them, and possibly an exponent with a sign of
its own.  It stands for the floating-point number nearest to it.
-/

namespace ClusterAudit.Decimal

/-- The exponent after the digits of a decimal: nothing, or a letter, a sign and digits. -/
def exponent? (cs : List Char) : Option Int :=
  match cs with
  | [] => some 0
  | e :: rest =>
    if e = 'e' || e = 'E' then
      let (negative, digits) := Text.splitSign rest
      if digits.isEmpty || !digits.all Char.isDigit then none
      else some (Text.signed negative (Text.basicNumber digits))
    else none

/-- The digits of the whole part and of the fraction of a decimal, and what follows them. -/
def splitDigits (cs : List Char) : List Char × List Char × List Char :=
  let whole := cs.takeWhile Char.isDigit
  match cs.drop whole.length with
  | '.' :: rest =>
    let fraction := rest.takeWhile Char.isDigit
    (whole, fraction, rest.drop fraction.length)
  | rest => (whole, [], rest)

/-- The number of the given sign that a decimal without sign stands for. -/
def read? (negative : Bool) (cs : List Char) : Option Binary64 :=
  let (whole, fraction, rest) := splitDigits cs
  if whole.isEmpty && fraction.isEmpty then none
  else
    (exponent? rest).map fun exponent ↦
      Binary64.ofDecimal negative (Text.basicNumber (whole ++ fraction))
        (exponent - fraction.length)

end ClusterAudit.Decimal
