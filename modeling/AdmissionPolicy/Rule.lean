import AdmissionPolicy.Effect.Basic
import AdmissionPolicy.Selector.Basic

/-!
Rules: which requests are selected, and what is done to them.
-/

namespace AdmissionPolicy

structure Rule where
  name : String
  context : List Value
  matching : Selector
  excluding : Selector
  preconditions : Option Value
  mutate : Effect.Mutation
  validate : Effect.Validation
  generate : Effect.Generation
  verifyImages : List Effect.ImageCheck
  deriving BEq

namespace Rule

def ofName (name : String) : Rule :=
  ⟨name, [], .empty, .empty, none, .empty, .empty, .empty, []⟩

instance : Inhabited Rule := ⟨ofName ""⟩

def maxNameLength : Nat := 63

def declaresMutate (rule : Rule) : Bool := !rule.mutate.isEmpty

def declaresValidate (rule : Rule) : Bool := !rule.validate.isEmpty

def declaresGenerate (rule : Rule) : Bool := !rule.generate.isEmpty

/-- A list of image checks counts even if the checks are empty. -/
def declaresVerifyImages (rule : Rule) : Bool := !rule.verifyImages.isEmpty

def declaredOperations (rule : Rule) : Nat :=
  [rule.declaresMutate, rule.declaresValidate, rule.declaresGenerate,
    rule.declaresVerifyImages].count true

def matchKinds (rule : Rule) : List String := rule.matching.kinds

def excludeKinds (rule : Rule) : List String := rule.excluding.kinds

def usesAll (rule : Rule) : Bool :=
  !rule.matching.all.isEmpty || !rule.excluding.all.isEmpty

end Rule

end AdmissionPolicy
