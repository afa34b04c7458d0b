import AdmissionPolicy.Number.Double

/-!
The shortest decimal of a floating point number: the fewest digits that read back as the number,
and of the decimals with so many digits the nearest to it.
-/

namespace AdmissionPolicy

structure Decimal where
  digits : Nat
  power : Int
  deriving DecidableEq, Repr

namespace Double

/-- The reals that round to a finite positive number, in quarters of its last place: from `low` to
`high` with `value` between them, all times two to `power`. The ends belong to them when the
significand is even. -/
structure Interval where
  low : Nat
  value : Nat
  high : Nat
  power : Int
  closed : Bool

def interval (x : Double) : Interval :=
  let m := x.significand
  -- The gap below a power of two is half as wide as the gap above it.
  { low := 4 * m - if x.fraction = 0 && 1 < x.biasedExponent then 1 else 2
    value := 4 * m
    high := 4 * m + 2
    power := x.exponent - 2
    closed := m % 2 == 0 }

def onGrid (value : Nat) (binary decimal : Int) : Nat × Nat :=
  (value * Nat.pow 2 binary.toNat * Nat.pow 10 (-decimal).toNat,
    Nat.pow 2 (-binary).toNat * Nat.pow 10 decimal.toNat)

def Interval.holds (range : Interval) (decimal : Decimal) : Bool :=
  let low := onGrid range.low range.power decimal.power
  let high := onGrid range.high range.power decimal.power
  if range.closed then
    low.1 ≤ decimal.digits * low.2 && decimal.digits * high.2 ≤ high.1
  else
    low.1 < decimal.digits * low.2 && decimal.digits * high.2 < high.1

/-- The decimal of the interval at a power of ten that is nearest to the value, if one of the two
neighbours of the value on that grid is in the interval. Of two equally near ones the even one
counts. -/
def Interval.nearest? (range : Interval) (power : Int) : Option Decimal :=
  let (numerator, denominator) := onGrid range.value range.power power
  let below : Decimal := ⟨numerator / denominator, power⟩
  let above : Decimal := ⟨numerator / denominator + 1, power⟩
  let twice := 2 * (numerator % denominator)
  let lowFirst := twice < denominator || (twice == denominator && below.digits % 2 == 0)
  let (first, second) := if lowFirst then (below, above) else (above, below)
  if range.holds first then some first
  else if range.holds second then some second
  else none

def Interval.leadingPower (range : Interval) : Int :=
  let guess := ((Nat.log2 range.value : Int) + range.power) * 30103 / 100000
  let fits (power : Int) :=
    let (numerator, denominator) := onGrid range.value range.power power
    denominator ≤ numerator
  if fits (guess + 1) then guess + 1 else if fits guess then guess else guess - 1

def Interval.search (range : Interval) (leading : Int) (digits : Nat) : Nat → Decimal
  | 0 => ⟨0, 0⟩
  | more + 1 =>
      match range.nearest? (leading - digits) with
      | some decimal => decimal
      | none => range.search leading (digits + 1) more

def trimZeros (decimal : Decimal) : Nat → Decimal
  | 0 => decimal
  | fuel + 1 =>
      if decimal.digits % 10 = 0 then trimZeros ⟨decimal.digits / 10, decimal.power + 1⟩ fuel
      else decimal

def shortest (x : Double) : Decimal :=
  let range := x.interval
  -- Seventeen digits always suffice.
  trimZeros (range.search range.leadingPower 0 18) 18

end Double

end AdmissionPolicy
