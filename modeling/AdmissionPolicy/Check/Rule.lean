import AdmissionPolicy.Check.LogLine
import AdmissionPolicy.Check.Selector

/-!
The check of one rule: its effects, its match block against its exclude block, and the structure of
both blocks. Every part is checked whatever the others find.
-/

namespace AdmissionPolicy.Rule

def checkOperation (rule : Rule) (place : Location) : List Finding :=
  match rule.declaredOperations with
  | 0 => [.missingOperation place rule.name]
  | 1 => []
  | _ => [.multipleOperations place rule.name]

def coverage (rule : Rule) : Coverage.Outcome :=
  Coverage.analyze rule.matching rule.excluding

def checkCoverage (rule : Rule) (place : Location) : List Finding :=
  match rule.coverage with
  | .empty => [.emptySelection place rule.name]
  | _ => []

def coverageLine (rule : Rule) : LogLine :=
  match rule.coverage with
  | .skipped => .analysisSkipped rule.name
  | .reachable dimension => .reachesOutside rule.name dimension
  | .empty => .matchesNothing rule.name

/-- The lines about patterns that do not compile. Every pattern that the analysis may compare with a
name is tried, whether or not the analysis comes to it. -/
def patternLines (rule : Rule) : List LogLine :=
  let resources := rule.excluding.direct.resources
  (resources.name :: resources.names).filterMap fun pattern =>
    (Pattern.compileError? pattern).map fun error => .patternNotCompiled pattern error

def checkLines (rule : Rule) : List LogLine :=
  rule.patternLines ++ [rule.coverageLine]

def check (selectorCheck : SelectorCheck) (rule : Rule) (place : Location) (scope : Scope) :
    List Finding :=
  rule.checkOperation place
    ++ rule.checkCoverage place
    ++ selectorCheck rule.matching (place.child "match") scope
    ++ selectorCheck rule.excluding (place.child "exclude") scope

end AdmissionPolicy.Rule
