import AdmissionPolicy.Digits
import AdmissionPolicy.Yaml.Cursor

/-!
Characters that are written by escapes: after a backslash in double quotes, and after a percent sign
in tags.
-/

namespace AdmissionPolicy.Yaml

def letterEscapes : List (Char × Char) :=
  [ ('0', '\x00'), ('a', '\x07'), ('b', '\x08'), ('t', '\t'), ('n', '\n'), ('v', '\x0b'),
    ('f', '\x0c'), ('r', '\r'), ('e', '\x1b'), ('"', '"'), ('\\', '\\'), ('N', '\u0085'),
    ('_', '\u00a0'), ('L', '\u2028'), ('P', '\u2029') ]

/-- Characters that a backslash may stand before although it does not change them. -/
def idleEscapes : List (Char × Char) :=
  [(' ', ' '), ('/', '/'), ('\t', '\t')]

def charOfPoint? (point : Nat) : Option Char :=
  if point < 0xd800 || (0xdfff < point && point ≤ 0x10ffff) then some (Char.ofNat point) else none

def hexChar? (digits : Nat) (text : List Char) : Option Char :=
  if (text.take digits).length < digits then none
  else (Digits.number? 16 (text.take digits)).bind charOfPoint?

def escape? : List Char → Option (Char × Nat)
  | 'x' :: rest => (hexChar? 2 rest).map (·, 3)
  | 'u' :: rest => (hexChar? 4 rest).map (·, 5)
  | 'U' :: rest => (hexChar? 8 rest).map (·, 9)
  | c :: _ => ((letterEscapes ++ idleEscapes).lookup c).map (·, 1)
  | [] => none

def utf8Width? (octet : Nat) : Option Nat :=
  if octet < 0x80 then some 1
  else if 0xc0 ≤ octet && octet < 0xe0 then some 2
  else if 0xe0 ≤ octet && octet < 0xf0 then some 3
  else if 0xf0 ≤ octet && octet < 0xf8 then some 4
  else none

def percentOctets? : Nat → List Char → Option (List Nat)
  | 0, _ => some []
  | count + 1, '%' :: high :: low :: rest => do
      let octet ← Digits.number? 16 [high, low]
      return octet :: (← percentOctets? count rest)
  | _, _ => none

def percentChar? (text : List Char) : Option (Char × Nat) := do
  let first ← percentOctets? 1 text
  let width ← utf8Width? (first.headD 0)
  let octets ← percentOctets? width text
  let decoded ← String.fromUTF8? ⟨(octets.map Nat.toUInt8).toArray⟩
  match decoded.toList with
  | [c] => return (c, 3 * width)
  | _ => none

end AdmissionPolicy.Yaml
