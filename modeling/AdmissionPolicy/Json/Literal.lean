import AdmissionPolicy.Json.ReadError
import AdmissionPolicy.Number.Basic

/-!
Texts and numbers as they are written in JSON documents, read from octets.

A literal can be sound for a reader that only passes over it and still have no value: half a
surrogate pair, octets that are not UTF-8, a number that is too large. A scan therefore says apart
what the literal means and where it ends. The octets of a text are gathered last one first.
-/

namespace AdmissionPolicy.Json

/-- A scanned literal: closed, with its value or the reason why it has none and the rest of the
text, or broken off. -/
inductive Scan (α : Type)
  | closed (value : Except ReadError α) (rest : List UInt8)
  | broken (fault : Fault)

def octet (c : Char) : UInt8 := c.toNat.toUInt8

def isDigit (byte : UInt8) : Bool :=
  0x30 ≤ byte && byte ≤ 0x39

def digitValue (byte : UInt8) : Nat :=
  byte.toNat - 0x30

def hexValue? (byte : UInt8) : Option Nat :=
  if isDigit byte then some (digitValue byte)
  else if 0x61 ≤ byte && byte ≤ 0x66 then some (byte.toNat - 0x61 + 10)
  else if 0x41 ≤ byte && byte ≤ 0x46 then some (byte.toNat - 0x41 + 10)
  else none

def hexQuad? (a b c d : UInt8) : Option Nat := do
  let a ← hexValue? a
  let b ← hexValue? b
  let c ← hexValue? c
  let d ← hexValue? d
  return ((a * 16 + b) * 16 + c) * 16 + d

def reversedUtf8 (point : Nat) : List UInt8 :=
  (String.singleton (Char.ofNat point)).toUTF8.toList.reverse

def escapedOctet? (byte : UInt8) : Option UInt8 :=
  if byte = octet '"' || byte = octet '\\' || byte = octet '/' then some byte
  else if byte = octet 'b' then some 0x08
  else if byte = octet 'f' then some 0x0c
  else if byte = octet 'n' then some 0x0a
  else if byte = octet 'r' then some 0x0d
  else if byte = octet 't' then some 0x09
  else none

abbrev TextSoFar := Except ReadError (List UInt8)

namespace TextSoFar

def push (read : TextSoFar) (reversed : List UInt8) : TextSoFar :=
  read.map (reversed ++ ·)

def fail (read : TextSoFar) (error : ReadError) : TextSoFar :=
  read.bind fun _ => .error error

def finish (read : TextSoFar) : Except ReadError String :=
  read.bind fun reversed =>
    match String.fromUTF8? ⟨reversed.reverse.toArray⟩ with
    | some text => .ok text
    | none => .error .invalidUnicode

def breakOff (read : TextSoFar) (error : ReadError) : Scan String :=
  match read with
  | .ok _ => .broken (.same error)
  | .error first => .broken ⟨first, error⟩

end TextSoFar

/-- What stands after a backslash, and over how many octets: octets that are meant, an escape that
has no value, or a place where the text breaks off. -/
inductive Escape
  | meant (reversed : List UInt8) (length : Nat)
  | valueless (error : ReadError) (length : Nat)
  | broken (error : ReadError)

/-- Reads the four digits of an escape, and of a second escape if the first one writes the first
half of a surrogate pair. -/
def hexEscape : List UInt8 → Escape
  | a :: b :: c :: d :: rest =>
      match hexQuad? a b c d with
      | none => .broken .invalidEscape
      | some point =>
          if 0xdc00 ≤ point && point ≤ 0xdfff then .valueless .loneSurrogate 4
          else if point < 0xd800 || 0xdfff < point then .meant (reversedUtf8 point) 4
          else
            match rest with
            | [] => .meant [] 4
            | [slash] => if slash = octet '\\' then .meant [] 4 else .valueless .unfinishedPair 4
            | slash :: letter :: rest =>
                if slash ≠ octet '\\' || letter ≠ octet 'u' then .valueless .unfinishedPair 4
                else
                  match rest with
                  | a :: b :: c :: d :: _ =>
                      match hexQuad? a b c d with
                      | none => .meant [] 4
                      | some low =>
                          if 0xdc00 ≤ low && low ≤ 0xdfff then
                            let pair := (point - 0xd800) * 0x400 + (low - 0xdc00) + 0x10000
                            .meant (reversedUtf8 pair) 10
                          else .valueless .loneSurrogate 10
                  -- That the text breaks off in the second escape is found there.
                  | _ => .meant [] 4
  | _ => .broken .endOfText

def Escape.read : List UInt8 → Escape
  | [] => .broken .endOfText
  | letter :: rest =>
      if letter = octet 'u' then
        match hexEscape rest with
        | .meant reversed length => .meant reversed (length + 1)
        | .valueless error length => .valueless error (length + 1)
        | .broken error => .broken error
      else
        match escapedOctet? letter with
        | some octet => .meant [octet] 1
        | none => .broken .invalidEscape

def scanText (read : TextSoFar) (text : List UInt8) : Scan String :=
  match text with
  | [] => read.breakOff .endOfText
  | byte :: rest =>
      if byte = octet '"' then .closed read.finish rest
      else if byte = octet '\\' then
        match Escape.read rest with
        | .meant reversed length => scanText (read.push reversed) (rest.drop length)
        | .valueless error length => scanText (read.fail error) (rest.drop length)
        | .broken error => read.breakOff error
      else if byte < 0x20 then read.breakOff .controlCharacter
      else scanText (read.push [byte]) rest
termination_by text.length
decreasing_by all_goals simp only [List.length_drop, List.length_cons]; omega

/-- The digits of a number as they are gathered: at most 64 bits of them, and the power of ten that
stands for digits left out or behind the point. -/
structure Gathered where
  significand : Nat
  power : Int
  full : Bool

def Gathered.wholeDigit (gathered : Gathered) (byte : UInt8) : Gathered :=
  let next := gathered.significand * 10 + digitValue byte
  if gathered.full || Nat.pow 2 64 ≤ next then
    ⟨gathered.significand, gathered.power + 1, true⟩
  else ⟨next, gathered.power, false⟩

def Gathered.fractionDigit (gathered : Gathered) (byte : UInt8) : Gathered :=
  let next := gathered.significand * 10 + digitValue byte
  if gathered.full || Nat.pow 2 64 ≤ next then ⟨gathered.significand, gathered.power, true⟩
  else ⟨next, gathered.power - 1, false⟩

def divideDown (value : Double) (power : Int) : Nat → Double
  | 0 => .zero false
  | more + 1 =>
      if power < -308 then divideDown (value.div (.ofDecimal false 1 308)) (power + 308) more
      else value.div (.ofDecimal false 1 (-power))

/-- The number of gathered digits, in two rounded steps: the significand, then one product with, or
quotient by, a power of ten. -/
def Gathered.toDouble (gathered : Gathered) (negative : Bool) : Except ReadError Double :=
  let value := Double.ofNat gathered.significand
  if gathered.significand = 0 then .ok (.zero negative)
  else if 308 < gathered.power then .error .numberOutOfRange
  else
    let result :=
      if 0 ≤ gathered.power then value.mul (.ofDecimal false 1 gathered.power)
      else divideDown value gathered.power 4
    if !result.isFinite then .error .numberOutOfRange
    else .ok (if negative then result.neg else result)

def wholeNumber (negative : Bool) (gathered : Gathered) : Except ReadError Number :=
  let magnitude := gathered.significand
  if gathered.full then (gathered.toDouble negative).map .real
  else if !negative then .ok (.whole magnitude)
  -- Zero with a sign is a floating point number.
  else if magnitude = 0 || Nat.pow 2 63 < magnitude then
    .ok (.real (Double.ofNat magnitude).neg)
  else .ok (.whole (-(magnitude : Int)))

def withExponent (negative : Bool) (gathered : Gathered) (downward : Bool) (exponent : Nat) :
    Except ReadError Number :=
  if Nat.pow 2 31 ≤ exponent then
    if gathered.significand ≠ 0 && !downward then .error .numberOutOfRange
    else .ok (.real (.zero negative))
  else
    let shift : Int := if downward then -(exponent : Int) else exponent
    let shifted := { gathered with power := gathered.power + shift }
    (shifted.toDouble negative).map .real

def numberFault (rest : List UInt8) : Scan Number :=
  if rest.isEmpty then .broken ⟨.endOfValue, .invalidNumber⟩ else .broken (.same .invalidNumber)

def scanExponent (negative : Bool) (gathered : Gathered) (rest : List UInt8) : Scan Number :=
  let (downward, rest) :=
    match rest with
    | byte :: after =>
        if byte = octet '-' then (true, after)
        else if byte = octet '+' then (false, after)
        else (false, rest)
    | [] => (false, rest)
  let digits := rest.takeWhile isDigit
  let after := rest.dropWhile isDigit
  if digits.isEmpty then numberFault rest
  else
    let exponent := digits.foldl (fun total byte => total * 10 + digitValue byte) 0
    .closed (withExponent negative gathered downward exponent) after

def startsExponent : List UInt8 → Bool
  | byte :: _ => byte = octet 'e' || byte = octet 'E'
  | [] => false

def scanFraction (negative : Bool) (gathered : Gathered) (rest : List UInt8) : Scan Number :=
  let digits := rest.takeWhile isDigit
  let after := rest.dropWhile isDigit
  let gathered := digits.foldl Gathered.fractionDigit { gathered with full := false }
  if digits.isEmpty then numberFault rest
  else if startsExponent after then scanExponent negative gathered (after.drop 1)
  else .closed ((gathered.toDouble negative).map .real) after

def scanNumber (negative : Bool) (rest : List UInt8) : Scan Number :=
  let digits := rest.takeWhile isDigit
  let after := rest.dropWhile isDigit
  let gathered := digits.foldl Gathered.wholeDigit ⟨0, 0, false⟩
  if digits.isEmpty then numberFault rest
  else if digits.head? = some (octet '0') && 1 < digits.length then .broken (.same .invalidNumber)
  else if after.head? = some (octet '.') then scanFraction negative gathered (after.drop 1)
  else if startsExponent after then scanExponent negative gathered (after.drop 1)
  else .closed (wholeNumber negative gathered) after

end AdmissionPolicy.Json
