import AdmissionPolicy.Coverage

/-!
What the checks say about their progress.
-/

namespace AdmissionPolicy

inductive LogLine
  | patternNotCompiled (pattern : String) (error : Glob.CompileError)
  | matchesNothing (rule : String)
  | reachesOutside (rule : String) (dimension : Dimension)
  | analysisSkipped (rule : String)
  | duplicateName (rule : String)
  | skippedWarning (rule policy : String)
  | validated (policy : String) (rules findings warnings : Nat)
  deriving DecidableEq, Repr

namespace LogLine

inductive Level
  | debug
  | info
  | warn
  deriving DecidableEq, Repr

def Level.text : Level → String
  | debug => "DEBUG"
  | info => "INFO"
  | warn => "WARN"

def level : LogLine → Level
  | skippedWarning .. => .warn
  | validated .. => .info
  | _ => .debug

def message : LogLine → String
  | patternNotCompiled pattern error =>
      s!"Pattern '{pattern}' did not compile (" ++ error.message ++ "), comparing literally"
  | matchesNothing rule => s!"Rule '{rule}' matches an empty set"
  | reachesOutside rule dimension =>
      s!"Rule '{rule}' reaches resources outside exclude on " ++ dimension.text
  | analysisSkipped rule => s!"Rule '{rule}' uses `all` selectors, conflict analysis skipped"
  | duplicateName rule => s!"Duplicate rule name '{rule}'"
  | skippedWarning rule policy =>
      s!"Conflict analysis skipped for rule '{rule}' of policy '{policy}': "
        ++ "`all` selectors are not analysed"
  | validated policy rules findings warnings =>
      s!"Validated policy '{policy}': {rules} rules, {findings} errors, {warnings} warnings"

def text (line : LogLine) : String :=
  line.level.text ++ " " ++ line.message

end LogLine

end AdmissionPolicy
