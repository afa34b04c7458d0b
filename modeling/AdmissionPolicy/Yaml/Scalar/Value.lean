import AdmissionPolicy.Digits
import AdmissionPolicy.Document.Content
import AdmissionPolicy.Yaml.Token.Basic

/-!
The values that scalars write. A plain scalar writes nothing, a truth value or a number if it looks
like one, and a text otherwise; a tag says which of these is meant.
-/

namespace AdmissionPolicy.Yaml

namespace Tag

def ofStandard (name : String) : String :=
  "tag:yaml.org,2002:" ++ name

def bool : String := ofStandard "bool"

def int : String := ofStandard "int"

def float : String := ofStandard "float"

def null : String := ofStandard "null"

def ownName? (tag : Option String) : Option String :=
  tag.bind fun tag =>
    match tag.toList with
    | '!' :: name => some (String.ofList name)
    | _ => none

end Tag

def isNullWord (text : String) : Bool :=
  ["null", "Null", "NULL", "~"].contains text

def boolWord? (text : String) : Option Bool :=
  if ["true", "True", "TRUE"].contains text then some true
  else if ["false", "False", "FALSE"].contains text then some false
  else none

/-! ### Whole numbers -/

def magnitude? : List Char → Option Nat
  | '0' :: 'x' :: digits => Digits.number? 16 digits
  | '0' :: 'o' :: digits => Digits.number? 8 digits
  | '0' :: 'b' :: digits => Digits.number? 2 digits
  | digits => Digits.number? 10 digits

def dropSign (text : List Char) : List Char :=
  match text with
  | '+' :: rest => rest
  | '-' :: rest => rest
  | _ => text

/-- Several digits of which the first one is zero are a text. -/
def isPaddedNumber (text : List Char) : Bool :=
  match dropSign text with
  | '0' :: next :: rest => (next :: rest).all Char.isDigit
  | _ => false

/-- Whole numbers are told from texts up to 128 bits. -/
def wholeNumber? (text : List Char) : Option Int := do
  if isPaddedNumber text then none
  else
    let magnitude ← magnitude? (dropSign text)
    if text.head? == some '-' then
      if magnitude ≤ Nat.pow 2 127 then some (-(magnitude : Int)) else none
    else if magnitude < Nat.pow 2 128 then some magnitude
    else none

/-- A whole number as a value: it must not have more than 64 bits. -/
def wholeContent (value : Int) : Decoded Content :=
  if Number.inRange value then .ok (.number (.whole value)) else .error .numberTooLarge

/-! ### Floating point numbers -/

def exponent? : List Char → Option Int
  | [] => some 0
  | c :: rest => do
      if c != 'e' && c != 'E' then none
      else
        let value ← Digits.number? 10 (dropSign rest)
        return if rest.head? == some '-' then -(value : Int) else value

def decimal? (text : List Char) : Option Double := do
  let negative := text.head? == some '-'
  let unsigned := if negative then text.drop 1 else text
  let whole := unsigned.takeWhile Char.isDigit
  let rest := unsigned.dropWhile Char.isDigit
  let pointed := rest.head? == some '.'
  let behind := if pointed then rest.drop 1 else rest
  let fraction := if pointed then behind.takeWhile Char.isDigit else []
  let exponent ← exponent? (behind.drop fraction.length)
  let digits ← Digits.number? 10 (whole ++ fraction)
  let value := Double.ofDecimal negative digits (exponent - fraction.length)
  if value.isFinite then some value else none

def isInfinityWord (text : String) : Bool :=
  [".inf", ".Inf", ".INF"].contains text

def isNanWord (text : String) : Bool :=
  [".nan", ".NaN", ".NAN"].contains text

/-- A floating point number. A plus sign may stand before it, but not before another sign. -/
def real? (text : List Char) : Option Double :=
  let positive := if text.head? == some '+' then text.drop 1 else text
  if text.head? == some '+' && dropSign positive != positive then none
  else if isInfinityWord (String.ofList positive) then some (.infinity false)
  else if text.head? == some '-' && isInfinityWord (String.ofList (text.drop 1)) then
    some (.infinity true)
  else if isNanWord (String.ofList text) then some .nan
  else decimal? positive

/-! ### Values -/

def plainContent (text : String) : Decoded Content :=
  if text.isEmpty || isNullWord text then .ok .null
  else
    match boolWord? text with
    | some value => .ok (.bool value)
    | none =>
        match wholeNumber? text.toList with
        | some value => wholeContent value
        | none =>
            if isPaddedNumber text.toList then .ok (.text text)
            else
              match real? text.toList with
              | some value => .ok (.number (.real value))
              | none => .ok (.text text)

def misfit (text : String) (wanted : Wanted) : DecodeError :=
  .wrongValue (.text text) wanted

def taggedContent (tag text : String) : Decoded Content :=
  if tag = Tag.bool then
    match boolWord? text with
    | some value => .ok (.bool value)
    | none => .error (misfit text .flag)
  else if tag = Tag.int then
    match wholeNumber? text.toList with
    | some value => wholeContent value
    | none => .error (misfit text .index)
  else if tag = Tag.float then
    match real? text.toList with
    | some value => .ok (.number (.real value))
    | none => .error (misfit text .index)
  else if tag = Tag.null then
    if isNullWord text then .ok .null else .error (misfit text .nothing)
  else .ok (.text text)

def scalarContent (tag : Option String) (style : Style) (text : String) : Decoded Content :=
  match tag with
  | none => if style = .plain then plainContent text else .ok (.text text)
  | some tag =>
      if (Tag.ownName? (some tag)).isSome then .error (.wrongType .tagged .text)
      else taggedContent tag text

end AdmissionPolicy.Yaml
