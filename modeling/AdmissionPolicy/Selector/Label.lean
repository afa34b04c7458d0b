import AdmissionPolicy.Dict

/-!
Predicates on the labels of an object: labels that have to be there with given values, and
requirements on single keys.
-/

namespace AdmissionPolicy

inductive LabelOperator
  | oneOf
  | noneOf
  | present
  | absent
  deriving DecidableEq, Repr

namespace LabelOperator

def all : List LabelOperator := [oneOf, noneOf, present, absent]

def name : LabelOperator → String
  | oneOf => "In"
  | noneOf => "NotIn"
  | present => "Exists"
  | absent => "DoesNotExist"

/-- Whether a requirement with the operator needs values; otherwise it must have none. -/
def takesValues : LabelOperator → Bool
  | oneOf | noneOf => true
  | present | absent => false

theorem takesValues_iff {operator : LabelOperator} :
    operator.takesValues = true ↔ operator = oneOf ∨ operator = noneOf := by
  cases operator <;> simp [takesValues]

end LabelOperator

structure LabelRequirement where
  key : String
  operator : LabelOperator
  values : List String
  deriving DecidableEq, Repr

structure LabelSelector where
  labels : Dict String
  requirements : List LabelRequirement
  deriving DecidableEq

namespace LabelSelector

def empty : LabelSelector := ⟨.empty, []⟩

instance : Inhabited LabelSelector := ⟨empty⟩

def withLabel (selector : LabelSelector) (key value : String) : LabelSelector :=
  { selector with labels := selector.labels.insert key value }

def withRequirement (selector : LabelSelector) (requirement : LabelRequirement) : LabelSelector :=
  { selector with requirements := selector.requirements ++ [requirement] }

def isEmpty (selector : LabelSelector) : Bool :=
  selector.labels.isEmpty && selector.requirements.isEmpty

theorem isEmpty_iff {selector : LabelSelector} : selector.isEmpty = true ↔ selector = empty := by
  cases selector
  simp [isEmpty, empty, Dict.isEmpty_iff]

end LabelSelector

end AdmissionPolicy
