import AdmissionPolicy.Proofs.Pattern.Matcher
import AdmissionPolicy.Proofs.Policy.Names

/-!
What the check of a policy says about its progress, as it is written. All of it can be told from the
report and from the comparison of the blocks of each rule, and no pattern is ever said not to compile.
-/

namespace AdmissionPolicy

def Rule.decision (rule : Rule) : String :=
  let name := rule.name
  match Coverage.analyze rule.matching rule.excluding with
  | .empty => s!"DEBUG Rule '{name}' matches an empty set"
  | .reachable dimension =>
      s!"DEBUG Rule '{name}' reaches resources outside exclude on " ++ dimension.text
  | .skipped => s!"DEBUG Rule '{name}' uses `all` selectors, conflict analysis skipped"

/-- The lines about one rule, as the report tells them. -/
def Report.story (report : Report) (policy : Policy) (position : Nat) (rule : Rule) :
    List String :=
  let place := Policy.rulePlace position
  let name := rule.name
  let policyName := policy.metadata.name
  (if .duplicate (place.child "name") name ∈ report.findings then
    [s!"DEBUG Duplicate rule name '{name}'"] else [])
    ++ [rule.decision]
    ++ (if .analysisSkipped place name ∈ report.warnings then
      [s!"WARN Conflict analysis skipped for rule '{name}' of policy '{policyName}': "
        ++ "`all` selectors are not analysed"] else [])

/-- The line about a whole policy, as the report tells it. -/
def Report.summary (report : Report) (policy : Policy) : String :=
  let name := policy.metadata.name
  let rules := policy.rules.length
  let findings := report.findings.length
  let warnings := report.warnings.length
  s!"INFO Validated policy '{name}': {rules} rules, {findings} errors, {warnings} warnings"

def dimensionNames : List (Dimension × String) :=
  [ (.anyEntries, "AnyEntries"), (.exclude, "Exclude"), (.roles, "Roles"),
    (.clusterRoles, "ClusterRoles"), (.subjects, "Subjects"), (.name, "Name"), (.names, "Names"),
    (.namespaces, "Namespaces"), (.kinds, "Kinds"), (.labels, "Selector"),
    (.namespaceLabels, "NamespaceSelector"), (.annotations, "Annotations") ]

theorem Dimension.text_mem_dimensionNames (dimension : Dimension) :
    (dimension, dimension.text) ∈ dimensionNames := by
  cases dimension <;> decide

theorem Pattern.compileError?_eq_none (pattern : String) : compileError? pattern = none := by
  unfold compileError?
  split
  · rfl
  · rw [compile_eq_ok]

namespace LogLine

theorem duplicateName_text (name : String) :
    (duplicateName name).text = s!"DEBUG Duplicate rule name '{name}'" := by
  simp [text, message.eq_def, level, Level.text, toString, ← String.append_assoc]

theorem skippedWarning_text (name policyName : String) :
    (skippedWarning name policyName).text =
      s!"WARN Conflict analysis skipped for rule '{name}' of policy '{policyName}': "
        ++ "`all` selectors are not analysed" := by
  simp [text, message.eq_def, level, Level.text, toString, ← String.append_assoc]

theorem validated_text (name : String) (rules findings warnings : Nat) :
    (validated name rules findings warnings).text =
      s!"INFO Validated policy '{name}': {rules} rules, {findings} errors, {warnings} warnings" := by
  simp [text, message.eq_def, level, Level.text, toString, ← String.append_assoc]

end LogLine

theorem Rule.coverageLine_text (rule : Rule) : rule.coverageLine.text = rule.decision := by
  unfold coverageLine coverage decision LogLine.text LogLine.message
  cases Coverage.analyze rule.matching rule.excluding with
  | skipped => simp [LogLine.level, LogLine.Level.text, toString, ← String.append_assoc]
  | reachable => simp [LogLine.level, LogLine.Level.text, toString, ← String.append_assoc]
  | empty => simp [LogLine.level, LogLine.Level.text, toString, ← String.append_assoc]

theorem Rule.checkLines_eq (rule : Rule) : rule.checkLines = [rule.coverageLine] := by
  have noErrors : rule.patternLines = [] := by
    simp [patternLines, Pattern.compileError?_eq_none]
  rw [checkLines, noErrors, List.nil_append]

namespace Policy

variable {selectorCheck : SelectorCheck} {settings : Settings} {policy : Policy}

/-- The lines about one rule, without a look at the report. -/
def lineBlock (settings : Settings) (policy : Policy) (position : Nat) (rule : Rule) :
    List LogLine :=
  (if policy.Repeats position rule.name then [.duplicateName rule.name] else [])
    ++ [rule.coverageLine]
    ++ if warnsAbout settings rule then [.skippedWarning rule.name policy.metadata.name] else []

theorem checkRules_lines {progress : Progress} {position : Nat} (rules : List Rule) :
    (checkRules selectorCheck settings policy progress position rules).lines =
      progress.lines ++
        collect (fun names _ rule => ruleLines settings policy names rule)
          progress.names position rules := by
  induction rules generalizing progress position with
  | nil => simp [checkRules, collect]
  | cons rule rules ih =>
      rw [checkRules, ih, checkRule_eq, collect, ← List.append_assoc]

theorem ruleLines_eq_lineBlock {names : List String} {position : Nat} {rule : Rule}
    (same : rule.name ≠ "" → (rule.name ∈ names ↔ rule.name ∈ policy.namesBefore position)) :
    ruleLines settings policy names rule = lineBlock settings policy position rule := by
  have repeats : (!rule.name.isEmpty && names.contains rule.name) = true ↔
      policy.Repeats position rule.name := by
    rw [Repeats, Bool.and_eq_true, List.contains_iff_mem]
    simp only [Bool.not_eq_true', String.isEmpty_eq_false_iff, ne_eq]
    exact and_congr_right same
  rw [ruleLines, lineBlock, Rule.checkLines_eq]
  simp only [repeats]

theorem checkWith_lines (given : policy.rules ≠ []) :
    (checkWith selectorCheck settings policy).2 =
      (policy.rules.mapIdx (lineBlock settings policy)).flatten ++
        [.validated policy.metadata.name policy.rules.length
          (checkWith selectorCheck settings policy).1.findings.length
          (checkWith selectorCheck settings policy).1.warnings.length] := by
  have lines : (checkRules selectorCheck settings policy .start 0 policy.rules).lines =
      (policy.rules.mapIdx (lineBlock settings policy)).flatten := by
    rw [checkRules_lines]
    exact collect_rules fun _ _ _ same => ruleLines_eq_lineBlock same
  rw [checkWith, if_neg (by simpa using given)]
  simp only [lines]

theorem warning_mem_iff {position : Nat} (bound : position < policy.rules.length) :
    .analysisSkipped (rulePlace position) policy.rules[position].name ∈
        (checkWith selectorCheck settings policy).1.warnings ↔
      warnsAbout settings policy.rules[position] = true := by
  have given : policy.rules ≠ [] := List.ne_nil_of_length_pos (Nat.zero_lt_of_lt bound)
  simp only [checkWith_report given, warningBlocks, mem_blocks_iff, ruleWarnings]
  constructor
  · rintro ⟨other, otherBound, inBlock⟩
    split at inBlock
    · rename_i warned
      have places := (Warning.analysisSkipped.inj (List.mem_singleton.1 inBlock)).1
      obtain rfl := rulePlace_injective places
      exact warned
    · cases inBlock
  · intro warned
    refine ⟨position, bound, ?_⟩
    rw [if_pos warned]
    exact List.mem_singleton_self _

theorem lineBlock_text {position : Nat} (bound : position < policy.rules.length) :
    (lineBlock settings policy position policy.rules[position]).map LogLine.text =
      (checkWith Selector.check settings policy).1.story policy position policy.rules[position] := by
  have duplicate := @duplicate_mem_iff _ settings policy findsNoDuplicate_check position bound
  have warning := @warning_mem_iff Selector.check settings policy position bound
  simp only [Report.story, duplicate, warning, lineBlock, List.map_append, List.map_singleton,
    Rule.coverageLine_text]
  congr 1
  · congr 1
    split
    · rw [List.map_singleton, LogLine.duplicateName_text]
    · rfl
  · split
    · rw [List.map_singleton, LogLine.skippedWarning_text]
    · rfl

theorem not_patternNotCompiled_of_mem_lineBlock {position : Nat} {rule : Rule} :
    ∀ line ∈ lineBlock settings policy position rule,
      ∀ pattern error, line ≠ .patternNotCompiled pattern error := by
  intro line member pattern error same
  subst same
  simp only [lineBlock, Rule.coverageLine, List.mem_append, List.mem_singleton] at member
  rcases member with (repeated | decided) | warned
  · split at repeated <;> simp at repeated
  · split at decided <;> cases decided
  · split at warned <;> simp at warned

/-- Nothing is said about a policy without rules. Otherwise the lines are those that the report tells
for each rule in order, with the names of the dimensions in them, and at the end one with the numbers
of rules, findings and warnings. No pattern is said not to compile, as every pattern does. -/
theorem checkWith_log (settings : Settings) (policy : Policy) :
    let report := (checkWith Selector.check settings policy).1
    let lines := (checkWith Selector.check settings policy).2
    (policy.rules = [] → lines = []) ∧
      (policy.rules ≠ [] →
        lines.map LogLine.text =
          (policy.rules.mapIdx (report.story policy)).flatten ++ [report.summary policy]) ∧
      (∀ dimension : Dimension, (dimension, dimension.text) ∈ dimensionNames) ∧
      (∀ pattern error, .patternNotCompiled pattern error ∉ lines) ∧
      ∀ pattern, Pattern.compileError? pattern = none := by
  intro report lines
  have nothing : policy.rules = [] → lines = [] := by
    intro none
    simp [lines, checkWith, none]
  refine ⟨nothing, ?_, Dimension.text_mem_dimensionNames, ?_, Pattern.compileError?_eq_none⟩
  · intro given
    have told : policy.rules.mapIdx (report.story policy) =
        (policy.rules.mapIdx (lineBlock settings policy)).map (List.map LogLine.text) := by
      refine List.ext_getElem (by simp) ?_
      intro position _ _
      rw [List.getElem_map, List.getElem_mapIdx, List.getElem_mapIdx]
      exact (lineBlock_text _).symm
    simp only [lines, checkWith_lines given, List.map_append, List.map_flatten, told,
      List.map_singleton, LogLine.validated_text]
    rfl
  · intro pattern error member
    by_cases none : policy.rules = []
    · rw [nothing none] at member
      cases member
    · simp only [lines, checkWith_lines none, List.mem_append, mem_blocks_iff] at member
      rcases member with ⟨position, _, inBlock⟩ | last
      · exact not_patternNotCompiled_of_mem_lineBlock _ inBlock pattern error rfl
      · cases List.mem_singleton.1 last

theorem checkWith_log_repeated :
    let pods := Filter.empty.withKinds ["Pod"]
    let covered := { Rule.ofName "a" with matching := .ofFilter pods, excluding := .ofFilter pods }
    let skipped := { Rule.ofName "a" with matching := .allOf [pods], excluding := .ofFilter pods }
    let reaching := { Rule.ofName "b" with matching := .anyOf [pods], excluding := .ofFilter pods }
    let policy := (((default : Policy).addRule covered).addRule skipped).addRule reaching
    policy.rules ≠ [] ∧
      (checkWith Selector.check .standard policy).2.map LogLine.text =
        [ "DEBUG Rule 'a' matches an empty set",
          "DEBUG Duplicate rule name 'a'",
          "DEBUG Rule 'a' uses `all` selectors, conflict analysis skipped",
          "WARN Conflict analysis skipped for rule 'a' of policy '': "
            ++ "`all` selectors are not analysed",
          "DEBUG Rule 'b' reaches resources outside exclude on Kinds",
          "INFO Validated policy '': 3 rules, 5 errors, 1 warnings" ] := by
  intro pods covered skipped reaching policy
  have given : policy.rules ≠ [] := by simp [policy, addRule, rules]
  refine ⟨given, ?_⟩
  rw [(checkWith_log .standard policy).2.1 given]
  decide +kernel

end Policy

end AdmissionPolicy
