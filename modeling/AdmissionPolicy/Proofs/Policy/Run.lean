import AdmissionPolicy.Check.Policy

/-!
The check of a policy as one list of findings for each rule. A rule sees of the rules before it only
their names, and the flag of the report stays in step with the findings.
-/

namespace AdmissionPolicy

def Report.InStep (report : Report) : Prop :=
  report.valid = true ↔ report.findings = []

theorem Report.inStep_clean : clean.InStep := by
  simp [InStep, clean]

theorem Report.InStep.addFindings {report : Report} (inStep : report.InStep)
    (findings : List Finding) : (report.addFindings findings).InStep := by
  have flag : report.valid = true ↔ report.findings = [] := inStep
  simp [InStep, Report.addFindings, flag]

theorem Report.addFindings_addFindings (report : Report) (first second : List Finding) :
    (report.addFindings first).addFindings second = report.addFindings (first ++ second) := by
  cases first <;> simp [addFindings]

namespace Policy

def namesBehind (names : List String) (rule : Rule) : List String :=
  if rule.name.isEmpty then names else names ++ [rule.name]

theorem namesBehind_of_given {names : List String} {rule : Rule} (given : rule.name ≠ "") :
    namesBehind names rule = names ++ [rule.name] := by
  rw [namesBehind, if_neg (by simpa using given)]

section

variable (selectorCheck : SelectorCheck) (settings : Settings) (policy : Policy)

def ruleFindings (names : List String) (position : Nat) (rule : Rule) : List Finding :=
  checkName settings names rule (rulePlace position)
    ++ rule.check selectorCheck (rulePlace position) (policy.scope settings)

def ruleWarnings (position : Nat) (rule : Rule) : List Warning :=
  if warnsAbout settings rule then [.analysisSkipped (rulePlace position) rule.name] else []

def ruleLines (names : List String) (rule : Rule) : List LogLine :=
  (if !rule.name.isEmpty && names.contains rule.name then [.duplicateName rule.name] else [])
    ++ rule.checkLines
    ++ if warnsAbout settings rule then [.skippedWarning rule.name policy.metadata.name] else []

def findingsFrom : List String → Nat → List Rule → List Finding
  | _, _, [] => []
  | names, position, rule :: rules =>
      ruleFindings selectorCheck settings policy names position rule
        ++ findingsFrom (namesBehind names rule) (position + 1) rules

variable {selectorCheck settings policy} {progress : Progress} {rule : Rule} {position : Nat}

/-- All that the check of one rule does: it adds to the report and to the lines, and takes the name
of the rule. -/
theorem checkRule_eq :
    checkRule selectorCheck settings policy progress rule position =
      { report :=
          { progress.report.addFindings
              (ruleFindings selectorCheck settings policy progress.names position rule) with
            warnings := progress.report.warnings ++ ruleWarnings settings position rule }
        names := namesBehind progress.names rule
        lines := progress.lines ++ ruleLines settings policy progress.names rule } := by
  simp only [checkRule, Report.addFindings_addFindings]
  by_cases warned : warnsAbout settings rule = true
  · simp [warned, Report.addWarning, ruleFindings, ruleWarnings, ruleLines, namesBehind,
      Report.addFindings]
  · simp [warned, ruleFindings, ruleWarnings, ruleLines, namesBehind, Report.addFindings]

theorem checkRule_inStep (inStep : progress.report.InStep) :
    (checkRule selectorCheck settings policy progress rule position).report.InStep := by
  rw [checkRule_eq]
  exact inStep.addFindings _

theorem checkRules_findings (rules : List Rule) :
    (checkRules selectorCheck settings policy progress position rules).report.findings =
      progress.report.findings
        ++ findingsFrom selectorCheck settings policy progress.names position rules := by
  induction rules generalizing progress position with
  | nil => simp [checkRules, findingsFrom]
  | cons rule rules ih =>
      rw [checkRules, ih, checkRule_eq, findingsFrom, ← List.append_assoc]
      rfl

theorem checkRules_inStep (rules : List Rule) (inStep : progress.report.InStep) :
    (checkRules selectorCheck settings policy progress position rules).report.InStep := by
  induction rules generalizing progress position with
  | nil => exact inStep
  | cons rule rules ih => exact ih (checkRule_inStep inStep)

theorem checkWith_findings (given : policy.rules ≠ []) :
    (checkWith selectorCheck settings policy).1.findings =
      findingsFrom selectorCheck settings policy [] 0 policy.rules := by
  rw [checkWith, if_neg (by simpa using given)]
  exact checkRules_findings policy.rules

theorem checkWith_inStep : (checkWith selectorCheck settings policy).1.InStep := by
  unfold checkWith
  by_cases none : policy.rules = []
  · simp [none, Report.InStep, Report.withFinding]
  · rw [if_neg (by simpa using none)]
    exact checkRules_inStep policy.rules Report.inStep_clean

theorem checkWith_valid_iff :
    (checkWith selectorCheck settings policy).1.valid = true ↔
      policy.rules ≠ [] ∧ findingsFrom selectorCheck settings policy [] 0 policy.rules = [] := by
  refine checkWith_inStep.trans ?_
  unfold checkWith
  by_cases none : policy.rules = []
  · simp [none, Report.withFinding]
  · rw [if_neg (by simpa using none), checkRules_findings]
    simp [none, Progress.start, Report.clean]

end

end Policy

end AdmissionPolicy
