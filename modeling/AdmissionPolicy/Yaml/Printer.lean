import AdmissionPolicy.Json.Printer
import AdmissionPolicy.Yaml.Scalar.Quoting

/-!
YAML texts of JSON values, in block style. Objects are indented by two spaces; the items of a list
stand at the column of the key before it, and the first part of a list or an object in a list stands
behind the hyphen.
-/

namespace AdmissionPolicy.Yaml

def endLine (text : String) : String :=
  if text.toList.getLast?.any isBreak then text else text ++ "\n"

def margin (indent : Nat) : String :=
  String.ofList (spaces indent)

/-- Parts on lines of their own. The first one stands where the text has come to. -/
def stack (indent : Nat) : List String → String
  | [] => ""
  | [part] => part
  | part :: rest => endLine part ++ margin indent ++ stack indent rest

/-- Where a value stands: behind the colon of a key on the same line, or behind the sign of an item
or of a long key, where the parts of the value start at once. -/
inductive Place
  | behindKey
  | behindSign
  deriving DecidableEq

def Place.parts (place : Place) (indent : Nat) (parts : List String) : String :=
  match place with
  | .behindKey => "\n" ++ margin indent ++ stack indent parts
  | .behindSign => " " ++ stack indent parts

def Place.listIndent (place : Place) (indent : Nat) : Nat :=
  match place with
  | .behindKey => indent
  | .behindSign => indent + 2

def member (indent : Nat) (key : String) (value : Place → String) : String :=
  if isSimpleKey key then scalarText (indent + 2) key ++ ":" ++ value .behindKey
  else
    endLine ("? " ++ scalarText (indent + 2) key) ++ margin indent ++ ":" ++ value .behindSign

mutual

def value (indent : Nat) (place : Place) : Json → String
  | .text text => " " ++ scalarText (indent + 2) text
  | .list [] => " []"
  | .object [] => " \x7b\x7d"
  | .list items =>
      let inner := place.listIndent indent
      place.parts inner (itemTexts inner items)
  | .object members => place.parts (indent + 2) (memberTexts (indent + 2) members)
  | scalar => " " ++ scalar.scalar

def itemTexts (indent : Nat) : List Json → List String
  | [] => []
  | item :: rest => ("-" ++ value indent .behindSign item) :: itemTexts indent rest

def memberTexts (indent : Nat) : List (String × Json) → List String
  | [] => []
  | (key, held) :: rest =>
      member indent key (fun place => value indent place held) :: memberTexts indent rest

end

def documentText (members : List (String × Json)) : String :=
  endLine (stack 0 (memberTexts 0 members))

end AdmissionPolicy.Yaml
