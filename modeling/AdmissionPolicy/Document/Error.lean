import AdmissionPolicy.Json.ReadError
import AdmissionPolicy.Number.Basic
import AdmissionPolicy.Timestamp
import AdmissionPolicy.Uuid

/-!
Why a document does not hold a value that is wanted, and the text of the reasons.
-/

namespace AdmissionPolicy

inductive Found
  | null
  | bool (value : Bool)
  | number (value : Number)
  | text (value : String)
  | list
  | object
  /-- The bare name of a choice that carries a value. -/
  | bareChoice
  | tagged
  deriving DecidableEq, Repr

inductive Wanted
  | text
  | flag
  | list
  | map
  | index
  | uuid
  | timestamp
  | nothing
  | choice
  | singleKey
  | choiceWithValue
  | record (name : String)
  | recordOf (name : String) (fields : Nat)
  | fewerItems
  | itemCount (count : Nat)
  deriving DecidableEq, Repr

inductive DecodeError
  | wrongType (found : Found) (wanted : Wanted)
  | wrongValue (found : Found) (wanted : Wanted)
  | wrongLength (length : Nat) (wanted : Wanted)
  | missingField (name : String)
  | duplicateField (name : String)
  | unknownChoice (name : String) (choices : List String)
  | uuid (error : Uuid.ReadError)
  | timestamp (error : Timestamp.ReadError)
  | json (error : Json.ReadError)
  | yaml
  | keyIsNotText
  | numberTooLarge
  | tooDeep
  | tooManyReferences
  deriving DecidableEq, Repr

namespace Found

/-- Ranges of code points that show nothing, or only change the character before them. -/
def hiddenRanges : List (Nat × Nat) :=
  [ (0x00, 0x1f), (0x7f, 0xa0), (0xad, 0xad), (0x300, 0x36f), (0x483, 0x489), (0x591, 0x5bd),
    (0x600, 0x605), (0x610, 0x61c), (0x64b, 0x65f), (0x1680, 0x1680), (0x180b, 0x180f),
    (0x1ab0, 0x1ace), (0x1dc0, 0x1dff), (0x2000, 0x200f), (0x2028, 0x202f), (0x205f, 0x206f),
    (0x20d0, 0x20f0), (0x3000, 0x3000), (0x302a, 0x302f), (0x3099, 0x309a), (0xe000, 0xf8ff),
    (0xfe00, 0xfe0f), (0xfe20, 0xfe2f), (0xfeff, 0xfeff), (0xfff0, 0xfffb), (0xfffe, 0xffff),
    (0xe0000, 0x10ffff) ]

def isHidden (c : Char) : Bool :=
  hiddenRanges.any fun (first, last) => first ≤ c.toNat && c.toNat ≤ last

def quotedChar (c : Char) : String :=
  match c with
  | '"' => "\\\""
  | '\\' => "\\\\"
  | '\n' => "\\n"
  | '\r' => "\\r"
  | '\t' => "\\t"
  | '\x00' => "\\0"
  | _ =>
      if isHidden c then
        "\\u\x7b" ++ String.ofList (Nat.toDigits 16 c.toNat) ++ "\x7d"
      else c.toString

def message : Found → String
  | null => "null"
  | bool value => s!"boolean `{value}`"
  | number (.whole value) => s!"integer `{value}`"
  | number (.real value) => "floating point `" ++ value.text .message ++ "`"
  | text value => "string \"" ++ String.join (value.toList.map quotedChar) ++ "\""
  | list => "sequence"
  | object => "map"
  | bareChoice => "unit variant"
  | tagged => "enum"

end Found

def Wanted.message : Wanted → String
  | text => "a string"
  | flag => "a boolean"
  | list => "a sequence"
  | map => "a map"
  | index => "usize"
  | uuid => "a formatted UUID string"
  | timestamp => "an RFC 3339 formatted date and time string"
  | nothing => "unit"
  | choice => "string or map"
  | singleKey => "map with a single key"
  | choiceWithValue => "newtype variant"
  | record name => "struct " ++ name
  | recordOf name fields => s!"struct {name} with {fields} elements"
  | fewerItems => "fewer elements in array"
  | itemCount count => s!"{count} elements in sequence"

def DecodeError.message : DecodeError → String
  | wrongType found wanted => "invalid type: " ++ found.message ++ ", expected " ++ wanted.message
  | wrongValue found wanted =>
      "invalid value: " ++ found.message ++ ", expected " ++ wanted.message
  | wrongLength length wanted => s!"invalid length {length}, expected " ++ wanted.message
  | missingField name => "missing field `" ++ name ++ "`"
  | duplicateField name => "duplicate field `" ++ name ++ "`"
  | unknownChoice name choices =>
      "unknown variant `" ++ name ++ "`, expected one of "
        ++ String.intercalate ", " (choices.map fun choice => "`" ++ choice ++ "`")
  | uuid error => error.message
  | timestamp error => error.message
  | json error => error.message
  | yaml => "not a YAML document"
  | keyIsNotText => "a key is no text"
  | numberTooLarge => "a whole number has more than 64 bits"
  | tooDeep => "lists and objects are nested too deeply"
  | tooManyReferences => "a value follows too many references"

abbrev Decoded (α : Type) := Except DecodeError α

end AdmissionPolicy
