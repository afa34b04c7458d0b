/-!
Binary floating point numbers of 64 bits, kept as their bits and computed with in exact integer
arithmetic: a result is the exact value, rounded once to the nearest number.
-/

namespace AdmissionPolicy

structure Double where
  bits : UInt64
  deriving DecidableEq, Repr, Inhabited

/-- The whole number nearest to a fraction; a half goes to the even neighbour. -/
def nearestWhole (numerator denominator : Nat) : Nat :=
  let whole := numerator / denominator
  let twice := 2 * (numerator % denominator)
  if twice < denominator then whole
  else if denominator < twice then whole + 1
  else whole + whole % 2

namespace Double

def negative (x : Double) : Bool :=
  x.bits >>> 63 == 1

def biasedExponent (x : Double) : Nat :=
  ((x.bits >>> 52) &&& 0x7ff).toNat

def fraction (x : Double) : Nat :=
  (x.bits &&& 0xfffffffffffff).toNat

def isFinite (x : Double) : Bool :=
  x.biasedExponent < 2047

def exponent (x : Double) : Int :=
  max 1 x.biasedExponent - 1075

def significand (x : Double) : Nat :=
  if x.biasedExponent = 0 then x.fraction else x.fraction + Nat.pow 2 52

def isZero (x : Double) : Bool :=
  x.biasedExponent = 0 && x.fraction = 0

def infinityBits : Nat := 2047 * Nat.pow 2 52

def ofMagnitude (negative : Bool) (magnitude : Nat) : Double :=
  ⟨UInt64.ofNat (min magnitude infinityBits + if negative then Nat.pow 2 63 else 0)⟩

def zero (negative : Bool) : Double :=
  ofMagnitude negative 0

def infinity (negative : Bool) : Double :=
  ofMagnitude negative infinityBits

def nan : Double :=
  ⟨0x7ff8000000000000⟩

def scaled (numerator denominator : Nat) (power : Int) : Nat × Nat :=
  (numerator * Nat.pow 2 power.toNat, denominator * Nat.pow 2 (-power).toNat)

/-- The number nearest to a fraction times a power of two. A significand of 53 bits is wanted, or
fewer at the smallest exponent; a significand rounded up to 54 bits carries into the exponent. -/
def ofRatio (negative : Bool) (numerator denominator : Nat) (power : Int) : Double :=
  if numerator = 0 then zero negative
  else
    let high : Int := (Nat.log2 numerator : Int) - Nat.log2 denominator + power
    let place (exponent : Int) := scaled numerator denominator (power - exponent)
    let long := place (high - 53)
    let exact := if long.1 / long.2 < Nat.pow 2 53 then high - 53 else high - 52
    let exponent := max (-1074) exact
    let parts := place exponent
    ofMagnitude negative ((exponent + 1074).toNat * Nat.pow 2 52 + nearestWhole parts.1 parts.2)

/-- The number nearest to a decimal. Exponents far outside the range are settled without computing
the power of ten. -/
def ofDecimal (negative : Bool) (digits : Nat) (power : Int) : Double :=
  let reach := power + (Nat.log2 digits : Int) / 3
  if digits = 0 then zero negative
  else if 400 < power then infinity negative
  else if reach < -400 then zero negative
  else ofRatio negative (digits * Nat.pow 10 power.toNat) (Nat.pow 10 (-power).toNat) 0

def ofNat (value : Nat) : Double :=
  ofRatio false value 1 0

def neg (x : Double) : Double :=
  ⟨x.bits ^^^ 0x8000000000000000⟩

def mul (x y : Double) : Double :=
  ofRatio (x.negative != y.negative) (x.significand * y.significand) 1 (x.exponent + y.exponent)

def div (x y : Double) : Double :=
  ofRatio (x.negative != y.negative) x.significand y.significand (x.exponent - y.exponent)

/-- Equality of values: the two zeros are equal, and a NaN differs from every number. -/
def sameValue (x y : Double) : Bool :=
  let isNan (z : Double) := !z.isFinite && z.fraction != 0
  (x.isZero && y.isZero) || (x == y && !isNan x)

end Double

end AdmissionPolicy
