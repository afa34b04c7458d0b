import AdmissionPolicy.Digits

/-!
Universally unique identifiers: 128 bits, written as 32 hexadecimal digits or as groups of 8, 4, 4,
4 and 12 of them.
-/

namespace AdmissionPolicy

structure Uuid where
  value : Nat
  bounded : value < Nat.pow 2 128
  deriving DecidableEq

namespace Uuid

instance : Inhabited Uuid := ⟨0, by decide⟩

inductive ReadError
  | invalidCharacter (found : Char) (offset : Nat)
  | invalidGroupLength (group expected found : Nat)
  | invalidLength (found : Nat)
  deriving DecidableEq, Repr

def ReadError.message (error : ReadError) : String :=
  "UUID parsing failed: " ++
    match error with
    | .invalidCharacter found offset =>
        "invalid character: found `" ++ found.toString ++ "` at " ++ toString offset
    | .invalidGroupLength group expected found =>
        s!"invalid group length in group {group}: expected {expected}, found {found}"
    | .invalidLength found => s!"invalid length: found {found}"

def groupLengths : List Nat := [8, 4, 4, 4, 12]

def digitValue? : Char → Option Nat :=
  Digits.value? 16

/-- The identifier that a row of digits writes; only its last 32 digits count. -/
def ofDigits (digits : List Char) : Uuid :=
  let value := digits.foldl (fun total c => total * 16 + (digitValue? c).getD 0) 0
  ⟨value % Nat.pow 2 128, Nat.mod_lt _ (by decide)⟩

def groups (text : List Char) : List (List Char) :=
  text.splitOn '-'

def schemeText : List Char := "urn:uuid:".toList

def lowerCase (text : List Char) : List Char :=
  text.map Char.toLower

/-- Takes braces around a text, or the scheme of a name before it, away. The number says how many
octets went before the text. -/
def unwrap (text : List Char) : List Char × Nat :=
  if text.head? = some '{' && text.getLast? = some '}' && 2 ≤ text.length then
    (text.tail.dropLast, 1)
  else if lowerCase (text.take schemeText.length) = schemeText then
    (text.drop schemeText.length, schemeText.length)
  else (text, 0)

def firstInvalid? (offset : Nat) : List Char → Option (Char × Nat)
  | [] => none
  | c :: rest =>
      if c = '-' || (digitValue? c).isSome then firstInvalid? (offset + c.utf8Size) rest
      else some (c, offset)

def firstMisfit? (place : Nat) : List Nat → List (List Char) → Option (Nat × Nat × Nat)
  | length :: lengths, group :: groups =>
      if group.length = length then firstMisfit? (place + 1) lengths groups
      else some (place, length, group.length)
  | _, _ => none

def explain (text : List Char) : ReadError :=
  let (inner, offset) := unwrap text
  match firstInvalid? offset inner with
  | some (found, place) => .invalidCharacter found place
  | none =>
      let misfit :=
        if inner.contains '-' then firstMisfit? 0 groupLengths (groups inner) else none
      match misfit with
      | some (group, expected, found) => .invalidGroupLength group expected found
      | none => .invalidLength (String.ofList text).utf8ByteSize

/-- Reads an identifier: 32 digits, or five groups of digits, which may stand in braces or behind
the scheme `urn:uuid:`. -/
def parse (text : String) : Except ReadError Uuid :=
  let all := text.toList
  let (inner, _) := unwrap all
  let digits (part : List Char) := part.all fun c => (digitValue? c).isSome
  if all.length = 32 && digits all then .ok (ofDigits all)
  else if (groups inner).map List.length = groupLengths && (groups inner).all digits then
    .ok (ofDigits (groups inner).flatten)
  else .error (explain all)

def hexDigits (value : Nat) : Nat → List Char
  | 0 => []
  | count + 1 => hexDigits (value / 16) count ++ [Nat.digitChar (value % 16)]

def joinGroups (digits : List Char) : List Nat → List (List Char)
  | [] => []
  | length :: lengths => digits.take length :: joinGroups (digits.drop length) lengths

def text (uuid : Uuid) : String :=
  String.ofList (['-'].intercalate (joinGroups (hexDigits uuid.value 32) groupLengths))

end Uuid

end AdmissionPolicy
