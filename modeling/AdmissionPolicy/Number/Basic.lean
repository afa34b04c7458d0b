import AdmissionPolicy.Number.Shortest

/-!
Numbers of documents, whole or floating point, and their text.
-/

namespace AdmissionPolicy

inductive Number
  | whole (value : Int)
  | real (value : Double)
  deriving DecidableEq, Repr, Inhabited

/-- How floating point numbers are written: positionally from `smallest` powers of ten up to, but
not including, `largest`, and with a plus sign before a positive exponent or without. -/
structure RealFormat where
  smallest : Int
  largest : Int
  plusSign : Bool

/-- In documents: positional from 1e-5 up to below 1e16, exponents without a plus sign. -/
def RealFormat.document : RealFormat := ⟨-5, 16, false⟩

def RealFormat.message : RealFormat := ⟨-5, 16, true⟩

namespace Decimal

def positional (decimal : Decimal) : String :=
  let digits := (toString decimal.digits).toList
  if 0 ≤ decimal.power then
    String.ofList (digits ++ List.replicate decimal.power.toNat '0') ++ ".0"
  else
    let places := (-decimal.power).toNat
    let padded := List.replicate (places + 1 - digits.length) '0' ++ digits
    let cut := padded.length - places
    String.ofList (padded.take cut) ++ "." ++ String.ofList (padded.drop cut)

def scientific (decimal : Decimal) (plusSign : Bool) : String :=
  let digits := (toString decimal.digits).toList
  let exponent := decimal.power + (digits.length - 1 : Nat)
  let rest := digits.drop 1
  String.ofList (digits.take 1)
    ++ (if rest.isEmpty then "" else "." ++ String.ofList rest)
    ++ "e" ++ (if plusSign && 0 ≤ exponent then "+" else "") ++ toString exponent

end Decimal

def Double.text (format : RealFormat) (x : Double) : String :=
  let sign := if x.negative then "-" else ""
  if !x.isFinite then (if x.fraction = 0 then sign ++ "inf" else "NaN")
  else if x.isZero then sign ++ "0.0"
  else
    let decimal := x.shortest
    let leading := decimal.power + ((toString decimal.digits).length - 1 : Nat)
    sign ++
      if format.smallest ≤ leading && leading < format.largest then decimal.positional
      else decimal.scientific format.plusSign

namespace Number

def sameValue : Number → Number → Bool
  | whole left, whole right => left == right
  | real left, real right => left.sameValue right
  | _, _ => false

def text (format : RealFormat) : Number → String
  | whole value => toString value
  | real value => value.text format

def inRange (value : Int) : Bool :=
  -(Nat.pow 2 63 : Int) ≤ value && value < (Nat.pow 2 64 : Int)

end Number

end AdmissionPolicy
