import AdmissionPolicy.Document.Error
import AdmissionPolicy.Json.Canonical

/-!
Values of a document that were taken down before it was known what they stand for: the parts of a
record that lie beside its own fields. Scalars have their types by then, and keys of objects may be
any values.
-/

namespace AdmissionPolicy

inductive Content
  | null
  | bool (value : Bool)
  | number (value : Number)
  | text (value : String)
  | list (items : List Content)
  | object (members : List (Content × Content))
  deriving Inhabited, Repr

namespace Content

def found : Content → Found
  | null => .null
  | bool value => .bool value
  | number value => .number value
  | text value => .text value
  | list _ => .list
  | object _ => .object

mutual

def ofJson : Json → Content
  | .null => .null
  | .bool value => .bool value
  | .number value => .number value
  | .text value => .text value
  | .list items => .list (ofItems items)
  | .object members => .object (ofMembers members)

def ofItems : List Json → List Content
  | [] => []
  | item :: rest => ofJson item :: ofItems rest

def ofMembers : List (String × Json) → List (Content × Content)
  | [] => []
  | (key, value) :: rest => (.text key, ofJson value) :: ofMembers rest

end

mutual

def toJson : Content → Decoded Json
  | null => .ok .null
  | bool value => .ok (.bool value)
  | number value => .ok (.number value)
  | text value => .ok (.text value)
  | list items => do
      let items ← toItems items
      return .list items
  | object members => do
      let members ← toMembers members
      return .object members

def toItems : List Content → Decoded (List Json)
  | [] => .ok []
  | item :: rest => do
      let item ← toJson item
      let rest ← toItems rest
      return item :: rest

def toMembers : List (Content × Content) → Decoded (List (String × Json))
  | [] => .ok []
  | (.text key, value) :: rest => do
      let value ← toJson value
      let rest ← toMembers rest
      return (key, value) :: rest
  | _ :: _ => .error .keyIsNotText

end

def toValue (content : Content) : Decoded Value := do
  return .ofJson (← content.toJson)

end Content

end AdmissionPolicy
