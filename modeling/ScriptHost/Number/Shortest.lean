import ScriptHost.Number.Binary64

/-!
# The shortest decimal that reads back

Every finite nonzero number owns an interval of reals that round to it.  Among
the decimals in that interval the one with the fewest digits is chosen, of
those the nearest to the number, and of two equally near the even one.

Numbers are compared with decimals by cross multiplication, so the choice is
exact.  If any decimal of a grid lies in the interval, then so does one of the
two that enclose the number, which are the only ones tried.
-/

namespace ScriptHost

/-- A decimal `digits · 10^exponent`. -/
structure Decimal where
  /-- The digits, as one natural. -/
  digits : Nat
  /-- The power of ten of the last digit. -/
  exponent : Int
deriving DecidableEq, Repr

namespace Shortest

/-- The interval that rounds to a number, in quarters of its last place. -/
structure Interval where
  /-- Four times the significand. -/
  centre : Nat
  /-- The lower end. -/
  low : Nat
  /-- The upper end. -/
  high : Nat
  /-- The ends round to the number when its significand is even. -/
  closed : Bool
  /-- The binary exponent of a quarter of the last place. -/
  exponent : Int
deriving Repr

/-- Below a power of two the numbers are twice as dense. -/
def intervalOf (x : Binary64) : Interval :=
  let m := x.significand
  { centre := 4 * m
    low := if x.fraction = 0 ∧ 1 < x.biased then 4 * m - 1 else 4 * m - 2
    high := 4 * m + 2
    closed := m % 2 = 0
    exponent := x.exponent - 2 }

/-- The factor of the binary side when `n · 2^exponent` is compared with a
decimal of power `power`. -/
def binaryFactor (exponent power : Int) : Nat :=
  Nat.pow 2 exponent.toNat * Nat.pow 10 (-power).toNat

/-- The factor of the decimal side. -/
def decimalFactor (exponent power : Int) : Nat :=
  Nat.pow 10 power.toNat * Nat.pow 2 (-exponent).toNat

/-- Whether `digits · 10^power` rounds to the number. -/
def Interval.contains (interval : Interval) (power : Int) (digits : Nat) : Bool :=
  let here := digits * decimalFactor interval.exponent power
  let low := interval.low * binaryFactor interval.exponent power
  let high := interval.high * binaryFactor interval.exponent power
  if interval.closed then low ≤ here ∧ here ≤ high else low < here ∧ here < high

/-- The decimal of power `power` that rounds to the number and is nearest to it. -/
def Interval.onGrid? (interval : Interval) (power : Int) : Option Nat :=
  let centre := interval.centre * binaryFactor interval.exponent power
  let unit := decimalFactor interval.exponent power
  let below := centre / unit
  let above := below + 1
  let twice := 2 * (centre % unit)
  match interval.contains power below, interval.contains power above with
  | true, true =>
      if twice < unit then some below
      else if unit < twice then some above
      else some (below + below % 2)
  | true, false => some below
  | false, true => some above
  | false, false => none

/-- The power of the leading digit: the largest `p` with `10^p` at most the centre. -/
def leadingPower (interval : Interval) : Int :=
  let bits : Int := (interval.centre.log2 : Int) + interval.exponent
  let near := bits * 30103 / 100000
  let reached (p : Int) : Bool :=
    decimalFactor interval.exponent p ≤ interval.centre * binaryFactor interval.exponent p
  if reached (near + 1) then near + 1 else if reached near then near else near - 1

/-- Try grids of `count`, `count + 1`, … digits, at most `more` of them. -/
def search (interval : Interval) (leading : Int) : Nat → Nat → Decimal
  | 0, count => ⟨0, leading - count⟩
  | more + 1, count =>
      let power := leading - (count : Int) + 1
      match interval.onGrid? power with
      | some digits => ⟨digits, power⟩
      | none => search interval leading more (count + 1)

/-- Move trailing zeros of the digits into the exponent, at most `fuel` of them. -/
def trim : Nat → Decimal → Decimal
  | 0, decimal => decimal
  | fuel + 1, decimal =>
      if decimal.digits ≠ 0 ∧ decimal.digits % 10 = 0 then
        trim fuel ⟨decimal.digits / 10, decimal.exponent + 1⟩
      else
        decimal

end Shortest

/-- The shortest decimal that reads back as the magnitude of a finite number.
Seventeen digits always suffice. -/
def Binary64.shortest (x : Binary64) : Decimal :=
  if x.isZero then
    ⟨0, 0⟩
  else
    let interval := Shortest.intervalOf x
    Shortest.trim 20 (Shortest.search interval (Shortest.leadingPower interval) 17 1)

end ScriptHost
