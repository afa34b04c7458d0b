import AdmissionPolicy.Dict
import AdmissionPolicy.Number.Basic

/-!
JSON values. Members of an object keep the order in which they were listed; an object that was read
from a document lists them by key.
-/

namespace AdmissionPolicy

inductive Json
  | null
  | bool (value : Bool)
  | number (value : Number)
  | text (value : String)
  | list (items : List Json)
  | object (members : List (String × Json))
  deriving Inhabited, Repr

namespace Json

def whole (value : Int) : Json :=
  .number (.whole value)

def texts (values : List String) : Json :=
  .list (values.map .text)

def ofDict (dict : Dict Json) : Json :=
  .object dict.entries

mutual

/-- Equality of values: numbers are compared by value, and a whole number differs from a floating
point number. -/
def sameValue : Json → Json → Bool
  | null, null => true
  | bool left, bool right => left == right
  | number left, number right => left.sameValue right
  | text left, text right => left == right
  | list left, list right => sameItems left right
  | object left, object right => sameMembers left right
  | _, _ => false

def sameItems : List Json → List Json → Bool
  | [], [] => true
  | left :: lefts, right :: rights => sameValue left right && sameItems lefts rights
  | _, _ => false

def sameMembers : List (String × Json) → List (String × Json) → Bool
  | [], [] => true
  | (leftKey, left) :: lefts, (rightKey, right) :: rights =>
      leftKey == rightKey && sameValue left right && sameMembers lefts rights
  | _, _ => false

end

instance : BEq Json := ⟨sameValue⟩

def memberIf (present : Bool) (key : String) (value : Json) : List (String × Json) :=
  if present then [(key, value)] else []

def memberOf {α : Type} (key : String) (value : Option α) (encode : α → Json) :
    List (String × Json) :=
  match value with
  | none => []
  | some held => [(key, encode held)]

end Json

end AdmissionPolicy
