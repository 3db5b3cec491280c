import ClusterAudit.Binary64

/-!
# The shortest decimal that reads back

Around every finite positive floating-point number lies the interval of the reals that round to it;
its ends belong to it when the significand is even.  Among the decimals of fewest digits in the
interval the one nearest to the number is chosen.  A grid of decimals with a given number of digits
meets the interval exactly when one of the two grid points next to the number does, so only these
two are tried on each grid.
-/

namespace ClusterAudit.Decimal

/-- The number of decimal digits of a natural, one for zero. -/
def digitCount (n : Nat) : Nat :=
  if n < 10 then 1 else digitCount (n / 10) + 1

/-- A positive quotient of naturals. -/
structure Ratio where
  num : Nat
  den : Nat
deriving DecidableEq, Repr

def Ratio.scale2 (n : Nat) (q : Int) : Ratio :=
  if 0 ≤ q then ⟨n * Nat.pow 2 q.toNat, 1⟩ else ⟨n, Nat.pow 2 (-q).toNat⟩

def Ratio.scale10 (n : Nat) (k : Int) : Ratio :=
  if 0 ≤ k then ⟨n * Nat.pow 10 k.toNat, 1⟩ else ⟨n, Nat.pow 10 (-k).toNat⟩

/-- Strict order of quotients. -/
def Ratio.lt (x y : Ratio) : Bool := x.num * y.den < y.num * x.den

/-- Weak order of quotients. -/
def Ratio.le (x y : Ratio) : Bool := x.num * y.den ≤ y.num * x.den

/-- The reals that round to `m * 2 ^ q`, by their two ends. -/
structure RoundingInterval where
  low : Ratio
  high : Ratio
  closed : Bool

/-- The rounding interval of `m * 2 ^ q`: half a step on each side, and a quarter below a power of
two, where the numbers below lie twice as close. -/
def RoundingInterval.around (m : Nat) (q : Int) : RoundingInterval where
  low := Ratio.scale2 (if m = Binary64.exponentUnit && -1074 < q then 4 * m - 1 else 4 * m - 2) (q - 2)
  high := Ratio.scale2 (4 * m + 2) (q - 2)
  closed := m % 2 = 0

def RoundingInterval.contains (interval : RoundingInterval) (x : Ratio) : Bool :=
  if interval.closed then interval.low.le x && x.le interval.high
  else interval.low.lt x && x.lt interval.high

/-- The exponent of the first decimal digit of a positive quotient. -/
def leadingExponent (x : Ratio) : Int :=
  if x.den ≤ x.num then digitCount (x.num / x.den) - 1
  else -digitCount ((x.den - 1) / x.num)

/-- The decimal `d * 10 ^ k` of a grid that rounds to the number `x`, the nearer one of two, the even
one of two equally near. -/
def onGrid? (interval : RoundingInterval) (x : Ratio) (k : Int) : Option Nat :=
  let unit := Ratio.scale10 1 k
  let below := x.num * unit.den / (x.den * unit.num)
  let rest := 2 * (x.num * unit.den % (x.den * unit.num))
  let lowHit := 0 < below && interval.contains (Ratio.scale10 below k)
  let highHit := interval.contains (Ratio.scale10 (below + 1) k)
  match lowHit, highHit with
  | false, false => none
  | true, false => some below
  | false, true => some (below + 1)
  | true, true =>
    if rest < x.den * unit.num || (rest = x.den * unit.num && below % 2 = 0) then some below
    else some (below + 1)

/-- A decimal without trailing zeros in its digits. -/
def dropTrailingZeros (fuel : Nat) (d : Nat) (k : Int) : Nat × Int :=
  match fuel with
  | 0 => (d, k)
  | fuel + 1 => if d % 10 = 0 then dropTrailingZeros fuel (d / 10) (k + 1) else (d, k)

/-- Digits `d` and exponent `k` of the shortest decimal `d * 10 ^ k` that reads back as the positive
number `m * 2 ^ q`.  Seventeen digits always suffice. -/
def shortest (m : Nat) (q : Int) : Nat × Int :=
  let x := Ratio.scale2 m q
  let interval := RoundingInterval.around m q
  let lead := leadingExponent x
  let found := (List.range 17).findSome? fun (n : Nat) ↦
    (onGrid? interval x (lead - n)).map fun d ↦ dropTrailingZeros (n + 1) d (lead - n)
  found.getD (m, q)

end ClusterAudit.Decimal
