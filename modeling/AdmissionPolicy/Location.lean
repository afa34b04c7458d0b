/-!
Places inside a policy document, such as `spec.rules[2].exclude.any[0].resources.kinds`.
-/

namespace AdmissionPolicy

namespace Location

inductive Step
  | field (name : String)
  | index (position : Nat)
  | key (name : String)
  deriving DecidableEq, Repr

end Location

structure Location where
  steps : List Location.Step
  deriving DecidableEq, Repr, Inhabited

namespace Location

def root : Location := ⟨[]⟩

def extend (place : Location) (step : Step) : Location :=
  ⟨place.steps ++ [step]⟩

def child (place : Location) (name : String) : Location :=
  place.extend (.field name)

def index (place : Location) (position : Nat) : Location :=
  place.extend (.index position)

def key (place : Location) (name : String) : Location :=
  place.extend (.key name)

def append (place further : Location) : Location :=
  ⟨place.steps ++ further.steps⟩

instance : Append Location := ⟨append⟩

def ofField (name : String) : Location :=
  root.child name

def isRoot (place : Location) : Bool :=
  place.steps.isEmpty

def Step.text : Step → String
  | field name => "." ++ name
  | index position => "[" ++ toString position ++ "]"
  | key name => "[" ++ name ++ "]"

/-- The text of the first step: no point stands before a field. -/
def Step.firstText : Step → String
  | field name => name
  | step => step.text

def text (place : Location) : String :=
  match place.steps with
  | [] => "<root>"
  | first :: further => first.firstText ++ String.join (further.map Step.text)

instance : ToString Location := ⟨text⟩

end Location

end AdmissionPolicy
