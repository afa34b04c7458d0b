import AdmissionPolicy.Check.Rule
import AdmissionPolicy.Check.Settings
import AdmissionPolicy.Policy.Basic
import AdmissionPolicy.Report

/-!
The check of a whole policy: it has rules, their names are given, short enough and different, and
every rule passes its own check.
-/

namespace AdmissionPolicy.Policy

def scope (policy : Policy) (settings : Settings) : Scope :=
  { namespaced := settings.forceNamespaced.getD policy.isNamespaced
    clusterKinds := settings.clusterKinds }

def rulesPlace : Location := (Location.ofField "spec").child "rules"

def rulePlace (position : Nat) : Location := rulesPlace.index position

def checkName (settings : Settings) (earlier : List String) (rule : Rule) (place : Location) :
    List Finding :=
  let place := place.child "name"
  if rule.name.isEmpty then [.required place "rule name is required"]
  else
    findingIf (settings.maxNameLength < rule.name.utf8ByteSize)
        (.invalid place rule.name
          s!"must be no more than {settings.maxNameLength} characters")
      ++ findingIf (earlier.contains rule.name) (.duplicate place rule.name)

def warnsAbout (settings : Settings) (rule : Rule) : Bool :=
  settings.warnOnSkipped && rule.usesAll

structure Progress where
  report : Report
  names : List String
  lines : List LogLine

def checkRule (selectorCheck : SelectorCheck) (settings : Settings) (policy : Policy)
    (progress : Progress) (rule : Rule) (position : Nat) : Progress :=
  let place := rulePlace position
  let nameFindings := checkName settings progress.names rule place
  let ruleFindings := rule.check selectorCheck place (policy.scope settings)
  let report := (progress.report.addFindings nameFindings).addFindings ruleFindings
  let repeated := !rule.name.isEmpty && progress.names.contains rule.name
  let lines := progress.lines
    ++ (if repeated then [.duplicateName rule.name] else [])
    ++ rule.checkLines
  let names := if rule.name.isEmpty then progress.names else progress.names ++ [rule.name]
  if warnsAbout settings rule then
    { report := report.addWarning (.analysisSkipped place rule.name)
      names
      lines := lines ++ [.skippedWarning rule.name policy.metadata.name] }
  else { report, names, lines }

def checkRules (selectorCheck : SelectorCheck) (settings : Settings) (policy : Policy) :
    Progress → Nat → List Rule → Progress
  | progress, _, [] => progress
  | progress, position, rule :: rules =>
      checkRules selectorCheck settings policy
        (checkRule selectorCheck settings policy progress rule position) (position + 1) rules

def Progress.start : Progress := ⟨.clean, [], []⟩

/-- The check of a policy with any check of its blocks: the report, and what was said about the
progress. -/
def checkWith (selectorCheck : SelectorCheck) (settings : Settings) (policy : Policy) :
    Report × List LogLine :=
  if policy.rules.isEmpty then (.withFinding (.emptyPolicy rulesPlace), [])
  else
    let progress := checkRules selectorCheck settings policy .start 0 policy.rules
    let report := progress.report
    (report, progress.lines ++ [.validated policy.metadata.name policy.rules.length
      report.findings.length report.warnings.length])

def check (settings : Settings) (policy : Policy) : Report :=
  (checkWith Selector.check settings policy).1

end AdmissionPolicy.Policy
