/-!
# Floating-point numbers of 64 bits

A floating-point number is kept as its word: a sign, an exponent field of eleven bits and a fraction
of 52 bits.  All that is asked of it is answered in exact integer arithmetic on the significand and
the exponent: its comparison with an integer, the integer towards zero, and the number nearest to a
quotient, where a tie goes to the even significand.
-/

namespace ClusterAudit

/-- A floating-point number, given by its word. -/
structure Binary64 where
  bits : UInt64
deriving DecidableEq, Repr, Inhabited

namespace Binary64

/-- The value of the sign bit in a word. -/
def signUnit : Nat := 0x8000000000000000

/-- The value of the last bit of the exponent field in a word, and the number of fractions. -/
def exponentUnit : Nat := 0x10000000000000

def isNegative (x : Binary64) : Bool :=
  signUnit ≤ x.bits.toNat

def exponentField (x : Binary64) : Nat :=
  x.bits.toNat / exponentUnit % 2048

def fraction (x : Binary64) : Nat :=
  x.bits.toNat % exponentUnit

def isNaN (x : Binary64) : Bool :=
  x.exponentField = 2047 && x.fraction ≠ 0

def isInfinite (x : Binary64) : Bool :=
  x.exponentField = 2047 && x.fraction = 0

def isZero (x : Binary64) : Bool :=
  x.exponentField = 0 && x.fraction = 0

/-- The significand `m` and the exponent `q` of a finite number of magnitude `m * 2 ^ q`. -/
def magnitude? (x : Binary64) : Option (Nat × Int) :=
  if x.exponentField = 2047 then none
  else if x.exponentField = 0 then some (x.fraction, -1074)
  else some (exponentUnit + x.fraction, x.exponentField - 1075)

/-- Numeric equality: the zeros are equal, and what is no number equals nothing. -/
def same (x y : Binary64) : Bool :=
  !x.isNaN && (x.bits = y.bits || (x.isZero && y.isZero))

def equalsInt (x : Binary64) (n : Int) : Bool :=
  match x.magnitude? with
  | none => false
  | some (m, q) =>
    let s : Int := if x.isNegative then -m else m
    if 0 ≤ q then s * (Nat.pow 2 q.toNat : Nat) = n else s = n * (Nat.pow 2 (-q).toNat : Nat)

/-- The integer part of a finite number, towards zero. -/
def truncate? (x : Binary64) : Option Int :=
  x.magnitude?.map fun (m, q) ↦
    let part := if 0 ≤ q then m * Nat.pow 2 q.toNat else m / Nat.pow 2 (-q).toNat
    if x.isNegative then -part else part

/-- The number of the given sign and word without sign. -/
def ofMagnitudeBits (negative : Bool) (word : Nat) : Binary64 :=
  ⟨UInt64.ofNat (if negative then signUnit + word else word)⟩

def infinity (negative : Bool) : Binary64 :=
  ofMagnitudeBits negative (2047 * exponentUnit)

def nan : Binary64 :=
  ofMagnitudeBits false (2047 * exponentUnit + exponentUnit / 2)

/-- The quotient rounded to the nearest integer, a tie to the even one. -/
def roundQuotient (num den : Nat) : Nat :=
  let quotient := num / den
  let twice := 2 * (num % den)
  if twice > den || (twice = den && quotient % 2 = 1) then quotient + 1 else quotient

/-- The exponent of the last significand bit of the number nearest to a positive quotient. -/
def exponentOf (num den : Nat) : Int :=
  let estimate : Int := (num.log2 : Int) - den.log2 - 52
  let reached : Bool :=
    if 0 ≤ estimate then exponentUnit * (den * Nat.pow 2 estimate.toNat) ≤ num
    else exponentUnit * den ≤ num * Nat.pow 2 (-estimate).toNat
  max (if reached then estimate else estimate - 1) (-1074)

/-- The number nearest to a quotient of naturals, with the given sign. -/
def ofRatio (negative : Bool) (num den : Nat) : Binary64 :=
  if num = 0 then ofMagnitudeBits negative 0
  else
    let q := exponentOf num den
    let m :=
      if 0 ≤ q then roundQuotient num (den * Nat.pow 2 q.toNat)
      else roundQuotient (num * Nat.pow 2 (-q).toNat) den
    let word := (q + 1074).toNat * exponentUnit + m
    if 2047 * exponentUnit ≤ word then infinity negative else ofMagnitudeBits negative word

/-- The number nearest to `digits * 10 ^ exponent`, with the given sign. -/
def ofDecimal (negative : Bool) (digits : Nat) (exponent : Int) : Binary64 :=
  if digits = 0 then ofMagnitudeBits negative 0
  else if 310 < exponent then infinity negative
  else if 3 * exponent + digits.log2 + 1 < -1100 then ofMagnitudeBits negative 0
  else if 0 ≤ exponent then ofRatio negative (digits * Nat.pow 10 exponent.toNat) 1
  else ofRatio negative digits (Nat.pow 10 (-exponent).toNat)

end Binary64

end ClusterAudit
