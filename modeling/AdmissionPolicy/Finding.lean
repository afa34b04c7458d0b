import AdmissionPolicy.Location

/-!
What the checks of a policy find. Findings are values and not failures: a check reports all of them,
each with the place that it is about.
-/

namespace AdmissionPolicy

inductive Finding
  | missingOperation (place : Location) (rule : String)
  | multipleOperations (place : Location) (rule : String)
  | emptySelection (place : Location) (rule : String)
  | invalid (place : Location) (value detail : String)
  | forbidden (place : Location) (detail : String)
  | required (place : Location) (detail : String)
  | duplicate (place : Location) (value : String)
  | emptyPolicy (place : Location)
  deriving DecidableEq, Repr

namespace Finding

inductive Kind
  | invalid
  | forbidden
  | required
  | duplicate
  deriving DecidableEq, Repr

def kind : Finding → Kind
  | missingOperation .. | multipleOperations .. | emptySelection .. | invalid .. => .invalid
  | forbidden .. => .forbidden
  | required .. | emptyPolicy .. => .required
  | duplicate .. => .duplicate

def place : Finding → Location
  | missingOperation place _ | multipleOperations place _ | emptySelection place _
  | invalid place _ _ | forbidden place _ | required place _ | duplicate place _
  | emptyPolicy place => place

def statement : Finding → String
  | missingOperation _ rule =>
      s!"Invalid value: rule '{rule}': No operation defined in the rule '{rule}'."
        ++ "(supported operations: mutate,validate,generate,verifyImages)"
  | multipleOperations _ rule =>
      s!"Invalid value: rule '{rule}': Multiple operations defined in the rule '{rule}', "
        ++ "only one operation (mutate,validate,generate,verifyImages) is allowed per rule"
  | emptySelection _ rule => s!"Invalid value: rule '{rule}': Rule is matching an empty set"
  | invalid _ value detail => s!"Invalid value: {value}: {detail}"
  | forbidden _ detail => s!"Forbidden: {detail}"
  | required _ detail => s!"Required value: {detail}"
  | duplicate _ value => s!"Duplicate value: {value}"
  | emptyPolicy _ => "Required value: policy has no rules"

def message (finding : Finding) : String :=
  finding.place.text ++ ": " ++ finding.statement

end Finding

inductive Warning
  /-- The rule uses `all`, so its match and exclude blocks were not compared. -/
  | analysisSkipped (place : Location) (rule : String)
  deriving DecidableEq, Repr

end AdmissionPolicy
