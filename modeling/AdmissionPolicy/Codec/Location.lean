import AdmissionPolicy.Document.Instances
import AdmissionPolicy.Location

/-!
Locations in documents: lists of steps, each an object whose only key says what kind of step it is.
-/

namespace AdmissionPolicy.Location

def stepNames : List String := ["Field", "Index", "Key"]

/-- A position in a list has at most 64 bits. -/
def decodePosition : Json → Decoded Nat
  | .number (.whole (.ofNat position)) => .ok position
  | .number (.whole value) => .error (.wrongValue (.number (.whole value)) .index)
  | value => .error (.wrongType value.found .index)

def Step.decode (value : Json) : Decoded Step := do
  let (name, held) ← value.choice
  if name ∉ stepNames then throw (.unknownChoice name stepNames)
  match held with
  | none => throw (.wrongType .bareChoice .choiceWithValue)
  | some held =>
      if name = "Index" then return .index (← decodePosition held)
      else if name = "Key" then return .key (← Source.string held)
      else return .field (← Source.string held)

def decode (value : Json) : Decoded Location := do
  return ⟨← Source.listOf Step.decode value⟩

def Step.encode : Step → Json
  | field name => .object [("Field", .text name)]
  | index position => .object [("Index", Json.whole position)]
  | key name => .object [("Key", .text name)]

def encode (place : Location) : Json :=
  .list (place.steps.map Step.encode)

end AdmissionPolicy.Location
