/-!
# Binary64 numbers

A number is its sixty-four bits, so two NaNs with different payloads stay
apart.  A finite number is `m · 2^q` for its `significand` and `exponent`, and
every operation computes its exact result as a ratio of naturals and rounds
once, to the nearest number and to the even one of two.
-/

namespace ScriptHost

/-- A binary64 number, as its bit pattern. -/
structure Binary64 where
  /-- Sign, eleven exponent bits, fifty-two fraction bits. -/
  bits : UInt64
deriving DecidableEq, Repr, Inhabited

namespace Binary64

/-- The biased exponent. -/
def biased (x : Binary64) : Nat :=
  x.bits.toNat / Nat.pow 2 52 % Nat.pow 2 11

/-- The fraction bits. -/
def fraction (x : Binary64) : Nat :=
  x.bits.toNat % Nat.pow 2 52

/-- The sign bit is set for negative numbers and for negative zero. -/
def isNegative (x : Binary64) : Bool :=
  Nat.pow 2 63 ≤ x.bits.toNat

/-- The largest biased exponent is kept for infinities and NaNs. -/
def isFinite (x : Binary64) : Bool :=
  x.biased ≠ 2047

/-- A NaN has the largest biased exponent and a nonzero fraction. -/
def isNaN (x : Binary64) : Bool :=
  x.biased = 2047 ∧ x.fraction ≠ 0

/-- Both zeros. -/
def isZero (x : Binary64) : Bool :=
  x.biased = 0 ∧ x.fraction = 0

/-- Numeric equality: the zeros are equal, a NaN equals nothing. -/
def same (x y : Binary64) : Bool :=
  !x.isNaN && !y.isNaN && (x = y || (x.isZero && y.isZero))

/-- `m` of a finite number `m · 2^q`. -/
def significand (x : Binary64) : Nat :=
  if x.biased = 0 then x.fraction else Nat.pow 2 52 + x.fraction

/-- `q` of a finite number `m · 2^q`. -/
def exponent (x : Binary64) : Int :=
  if x.biased = 0 then -1074 else (x.biased : Int) - 1075

/-- Positive infinity, below its sign. -/
def infinityBits : Nat := 2047 * Nat.pow 2 52

/-- The number with the given sign and magnitude bits. -/
def ofParts (negative : Bool) (magnitude : Nat) : Binary64 :=
  ⟨UInt64.ofNat (if negative then Nat.pow 2 63 + magnitude else magnitude)⟩

/-- Positive zero. -/
def zero : Binary64 := ofParts false 0

/-- The same magnitude with the other sign. -/
def negate (x : Binary64) : Binary64 :=
  ofParts (!x.isNegative) (x.bits.toNat % Nat.pow 2 63)

/-- `num / den`, rounded to the nearest natural and to the even one of two. -/
def roundDiv (num den : Nat) : Nat :=
  let floor := num / den
  let twice := 2 * (num % den)
  if twice < den then floor
  else if den < twice then floor + 1
  else floor + floor % 2

/-- The exponent that leaves fifty-three bits before the point of `num / den`,
but never one below that of the subnormal numbers. -/
def scaleFor (num den : Nat) : Int :=
  let near : Int := (num.log2 : Int) - (den.log2 : Int) - 52
  let fits : Bool :=
    if 0 ≤ near then Nat.pow 2 52 * den * Nat.pow 2 near.toNat ≤ num
    else Nat.pow 2 52 * den ≤ num * Nat.pow 2 (-near).toNat
  max (-1074) (if fits then near else near - 1)

/-- The number nearest to `num / den`.  Past the largest number that is infinity.
The exponent field absorbs the carry of a significand that rounds up to a power
of two. -/
def ofRatio (negative : Bool) (num den : Nat) : Binary64 :=
  if num = 0 then
    ofParts negative 0
  else
    let q := scaleFor num den
    let m :=
      if 0 ≤ q then roundDiv num (den * Nat.pow 2 q.toNat)
      else roundDiv (num * Nat.pow 2 (-q).toNat) den
    ofParts negative (min ((q + 1074).toNat * Nat.pow 2 52 + m) infinityBits)

/-- The number nearest to `num · 2^scale / den`. -/
def ofScaledRatio (negative : Bool) (num den : Nat) (scale : Int) : Binary64 :=
  if 0 ≤ scale then ofRatio negative (num * Nat.pow 2 scale.toNat) den
  else ofRatio negative num (den * Nat.pow 2 (-scale).toNat)

/-- The natural nearest as a number. -/
def ofNat (n : Nat) : Binary64 :=
  ofRatio false n 1

/-- The product of two finite numbers. -/
def mul (x y : Binary64) : Binary64 :=
  ofScaledRatio (x.isNegative != y.isNegative)
    (x.significand * y.significand) 1 (x.exponent + y.exponent)

/-- The quotient of a finite number by a nonzero finite one. -/
def div (x y : Binary64) : Binary64 :=
  ofScaledRatio (x.isNegative != y.isNegative)
    x.significand y.significand (x.exponent - y.exponent)

end Binary64

end ScriptHost
