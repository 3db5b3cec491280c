import ClusterAudit.Decimal.Shortest

/-!
# Decimal notation

A decimal is written with its point among the digits while the point does not stand too far from
them, and otherwise with one digit before the point and an exponent.  The layout says where one
notation ends and the other begins, and how wide an exponent is at least.
-/

namespace ClusterAudit.Decimal

/-- The decisions of a decimal notation. -/
structure Layout where
  /-- The least position of the point, counted in digits from the first one, that is written
  without an exponent. -/
  leastPoint : Int
  /-- The greatest such position. -/
  greatestPoint : Int
  /-- The least number of digits of an exponent. -/
  exponentWidth : Nat

/-- Numbers of manifests and reports have no exponent from a ten-thousandth up to 10 ^ 16, and
exponents have two digits at least. -/
def manifestLayout : Layout := ⟨-3, 16, 2⟩

/-- The text of a decimal with digits `d` and exponent `k`. -/
def Layout.write (layout : Layout) (d : Nat) (k : Int) : String :=
  let digits := (Nat.repr d).toList
  let point : Int := digits.length + k
  if layout.leastPoint ≤ point && point ≤ layout.greatestPoint then
    if point ≤ 0 then
      "0." ++ String.ofList (List.replicate (-point).toNat '0' ++ digits)
    else if 0 ≤ k then
      String.ofList (digits ++ List.replicate k.toNat '0') ++ ".0"
    else
      String.ofList (digits.take point.toNat ++ '.' :: digits.drop point.toNat)
  else
    let exponent := point - 1
    let width := (Nat.repr exponent.natAbs).toList
    String.ofList (digits.take 1 ++
      (if digits.length = 1 then [] else '.' :: digits.drop 1) ++
      ['e', if exponent < 0 then '-' else '+'] ++
      List.replicate (layout.exponentWidth - width.length) '0' ++ width)

/-- The text of a floating-point number; `infinite` is what is written for infinity and `none` for
what is no number. -/
def Layout.writeBinary64 (layout : Layout) (infinite none : String) (x : Binary64) : String :=
  match x.magnitude? with
  | .none =>
    if x.isNaN then none else if x.isNegative then "-" ++ infinite else infinite
  | some (m, q) =>
    let body :=
      if m = 0 then "0.0"
      else
        let (d, k) := shortest m q
        layout.write d k
    if x.isNegative then "-" ++ body else body

end ClusterAudit.Decimal
