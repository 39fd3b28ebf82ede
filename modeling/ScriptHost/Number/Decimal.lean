import ScriptHost.Number.Binary64

/-!
# Decimals read with two roundings

A decimal is a natural significand times a power of ten.  The significand is
rounded to a number first and then multiplied or divided by the rounded power,
so the result may differ from the nearest number in its last bits.  Exponents
below the range of the powers are divided out in steps.
-/

namespace ScriptHost.Decimal

/-- The largest power of ten that is a finite number. -/
def largestPower : Nat := 308

/-- `10^k`, correctly rounded. -/
def power (k : Nat) : Binary64 :=
  Binary64.ofNat (Nat.pow 10 k)

/-- `x · 10^exponent`; nothing when that is past the largest number. -/
def scale? (x : Binary64) (exponent : Int) : Option Binary64 :=
  if 0 ≤ exponent then
    if exponent ≤ largestPower then
      let product := x.mul (power exponent.toNat)
      if product.isFinite then some product else none
    else if x.isZero then some x
    else none
  else if -exponent ≤ largestPower then
    some (x.div (power (-exponent).toNat))
  else if x.isZero then some x
  else scale? (x.div (power largestPower)) (exponent + largestPower)
termination_by (-exponent).toNat
decreasing_by simp only [largestPower] at *; omega

/-- The number read from `significand · 10^exponent`. -/
def read? (significand : Nat) (exponent : Int) : Option Binary64 :=
  scale? (Binary64.ofNat significand) exponent

end ScriptHost.Decimal
