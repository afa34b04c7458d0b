import AdmissionPolicy.Proofs.Policy.Run

/-!
How reports are put together. Whatever the operations are and in which order they come, the report
holds all that was added, and its flag says whether a finding is among that. The report on a policy
is put together by the same operations.
-/

namespace AdmissionPolicy

namespace Report

/-- The operations that put a report together, in their order. -/
inductive Assembly
  | clean
  | withFinding (finding : Finding)
  | addFinding (assembly : Assembly) (finding : Finding)
  | addFindings (assembly : Assembly) (findings : List Finding)
  | addWarning (assembly : Assembly) (warning : Warning)
  | merge (assembly other : Assembly)

namespace Assembly

def report : Assembly → Report
  | clean => .clean
  | withFinding finding => .withFinding finding
  | addFinding assembly finding => assembly.report.addFinding finding
  | addFindings assembly findings => assembly.report.addFindings findings
  | addWarning assembly warning => assembly.report.addWarning warning
  | merge assembly other => assembly.report.merge other.report

/-- Everything that is added, first to last. A merge adds all of the other report. -/
def added : Assembly → List (Finding ⊕ Warning)
  | clean => []
  | withFinding finding => [.inl finding]
  | addFinding assembly finding => assembly.added ++ [.inl finding]
  | addFindings assembly findings => assembly.added ++ findings.map .inl
  | addWarning assembly warning => assembly.added ++ [.inr warning]
  | merge assembly other => assembly.added ++ other.added

/-- The part is a stage on the way to the whole, or to a report that is merged in on that way. -/
inductive PartOf (part : Assembly) : Assembly → Prop
  | itself : part.PartOf part
  | addFinding {whole : Assembly} (finding : Finding) :
      part.PartOf whole → part.PartOf (whole.addFinding finding)
  | addFindings {whole : Assembly} (findings : List Finding) :
      part.PartOf whole → part.PartOf (whole.addFindings findings)
  | addWarning {whole : Assembly} (warning : Warning) :
      part.PartOf whole → part.PartOf (whole.addWarning warning)
  | mergeOther {whole : Assembly} (other : Assembly) :
      part.PartOf whole → part.PartOf (whole.merge other)
  | intoOther {whole : Assembly} (other : Assembly) :
      part.PartOf whole → part.PartOf (other.merge whole)

end Assembly

/-! ### The flag and the findings -/

theorem InStep.addFinding (report : Report) (finding : Finding) :
    (report.addFinding finding).InStep := by
  simp [InStep, Report.addFinding]

theorem InStep.merge {report other : Report} (inStep : report.InStep) (otherInStep : other.InStep) :
    (report.merge other).InStep := by
  rw [InStep] at inStep otherInStep
  simp [InStep, Report.merge, inStep, otherInStep]

theorem merge_assoc (first second third : Report) :
    (first.merge second).merge third = first.merge (second.merge third) := by
  simp [merge, Bool.and_assoc]

theorem clean_merge (report : Report) : clean.merge report = report := by
  simp [merge, clean]

theorem merge_clean (report : Report) : report.merge clean = report := by
  simp [merge, clean]

namespace Assembly

theorem report_inStep (assembly : Assembly) : assembly.report.InStep := by
  induction assembly with
  | clean => exact inStep_clean
  | withFinding finding => simp [report, InStep, Report.withFinding]
  | addFinding assembly finding ih => exact .addFinding _ finding
  | addFindings assembly findings ih => exact ih.addFindings findings
  | addWarning assembly warning ih => exact ih
  | merge assembly other ih ihOther => exact ih.merge ihOther

theorem report_holds_added (assembly : Assembly) :
    assembly.report.findings = assembly.added.filterMap Sum.getLeft? ∧
      assembly.report.warnings = assembly.added.filterMap Sum.getRight? := by
  induction assembly with
  | clean => exact ⟨rfl, rfl⟩
  | withFinding finding => exact ⟨rfl, rfl⟩
  | addFinding assembly finding ih => simp [report, added, Report.addFinding, ih]
  | addFindings assembly findings ih =>
      simp [report, added, Report.addFindings, ih, List.filterMap_map, Function.comp_def]
  | addWarning assembly warning ih => simp [report, added, Report.addWarning, ih]
  | merge assembly other ih ihOther => simp [report, added, Report.merge, ih, ihOther]

theorem PartOf.added_infix {part whole : Assembly} (partOf : part.PartOf whole) :
    part.added <:+: whole.added := by
  induction partOf with
  | itself => exact List.infix_rfl
  | addFinding finding _ ih => exact ih.trans (List.prefix_append _ _).isInfix
  | addFindings findings _ ih => exact ih.trans (List.prefix_append _ _).isInfix
  | addWarning warning _ ih => exact ih.trans (List.prefix_append _ _).isInfix
  | mergeOther other _ ih => exact ih.trans (List.prefix_append _ _).isInfix
  | intoOther other _ ih => exact ih.trans (List.suffix_append _ _).isInfix

theorem PartOf.findings_infix {part whole : Assembly} (partOf : part.PartOf whole) :
    part.report.findings <:+: whole.report.findings := by
  rw [(report_holds_added part).1, (report_holds_added whole).1]
  exact partOf.added_infix.filterMap _

theorem PartOf.stays_invalid {part whole : Assembly} (partOf : part.PartOf whole)
    (invalid : part.report.valid = false) : whole.report.valid = false := by
  rw [← Bool.not_eq_true] at invalid ⊢
  intro valid
  have found := partOf.findings_infix
  rw [(report_inStep whole).1 valid, List.infix_nil] at found
  exact invalid ((report_inStep part).2 found)

end Assembly

/-! ### The report on a policy -/

def Assembled (report : Report) : Prop :=
  ∃ assembly : Assembly, assembly.report = report

theorem assembled_clean : clean.Assembled :=
  ⟨.clean, rfl⟩

theorem Assembled.addFindings {report : Report} (assembled : report.Assembled)
    (findings : List Finding) : (report.addFindings findings).Assembled := by
  obtain ⟨assembly, rfl⟩ := assembled
  exact ⟨assembly.addFindings findings, rfl⟩

theorem Assembled.addWarning {report : Report} (assembled : report.Assembled)
    (warning : Warning) : (report.addWarning warning).Assembled := by
  obtain ⟨assembly, rfl⟩ := assembled
  exact ⟨assembly.addWarning warning, rfl⟩

end Report

namespace Policy

variable {selectorCheck : SelectorCheck} {settings : Settings} {policy : Policy}

theorem checkRule_assembled {progress : Progress} (assembled : progress.report.Assembled)
    (rule : Rule) (position : Nat) :
    (checkRule selectorCheck settings policy progress rule position).report.Assembled := by
  have found := (assembled.addFindings (checkName settings progress.names rule (rulePlace position)))
    |>.addFindings (rule.check selectorCheck (rulePlace position) (policy.scope settings))
  by_cases warned : warnsAbout settings rule = true
  · simp only [checkRule, warned, if_true]
    exact found.addWarning _
  · simp only [checkRule, warned]
    exact found

theorem checkRules_assembled {progress : Progress} (assembled : progress.report.Assembled)
    (position : Nat) (rules : List Rule) :
    (checkRules selectorCheck settings policy progress position rules).report.Assembled := by
  induction rules generalizing progress position with
  | nil => exact assembled
  | cons rule rules ih => exact ih (checkRule_assembled assembled rule position) (position + 1)

theorem checkWith_assembled (selectorCheck : SelectorCheck) (settings : Settings)
    (policy : Policy) : (checkWith selectorCheck settings policy).1.Assembled := by
  unfold checkWith
  split
  · exact ⟨.withFinding (.emptyPolicy rulesPlace), rfl⟩
  · exact checkRules_assembled Report.assembled_clean 0 policy.rules

end Policy

/-- A report that is put together by any operations is valid exactly if it has no findings, holds
what was added in that order, and stays invalid once it is. Merging is associative, with the clean
report as its identity. The report on a policy is put together so, whatever checks its blocks. -/
theorem Report.assembled_reports :
    (∀ assembly : Assembly,
        let report := assembly.report
        (report.valid = true ↔ report.findings = []) ∧
          report.findings = assembly.added.filterMap Sum.getLeft? ∧
          report.warnings = assembly.added.filterMap Sum.getRight? ∧
          ∀ whole, assembly.PartOf whole → report.valid = false → whole.report.valid = false) ∧
      (∀ first second third : Report,
        (first.merge second).merge third = first.merge (second.merge third)) ∧
      (∀ report : Report, clean.merge report = report ∧ report.merge clean = report) ∧
      ∀ (selectorCheck : SelectorCheck) (settings : Settings) (policy : Policy),
        (Policy.checkWith selectorCheck settings policy).1.Assembled := by
  refine ⟨?_, merge_assoc, ?_, ?_⟩
  · intro assembly report
    obtain ⟨findings, warnings⟩ := assembly.report_holds_added
    exact ⟨assembly.report_inStep, findings, warnings, fun _ partOf => partOf.stays_invalid⟩
  · exact fun report => ⟨report.clean_merge, report.merge_clean⟩
  · exact Policy.checkWith_assembled

theorem Report.assembled_reports_merged :
    let skipped := Warning.analysisSkipped (.ofField "rules") "r"
    let missing := Finding.emptyPolicy Policy.rulesPlace
    let part := Assembly.withFinding missing
    let before := (Assembly.clean.addFindings []).addWarning skipped
    let whole := (before.merge part).addFindings []
    (part.PartOf whole ∧ part.report.valid = false) ∧
      before.report.valid = true ∧
      whole.report.valid = false ∧
      whole.report.findings = [missing] ∧
      whole.report.warnings = [skipped] := by
  intro skipped missing part before whole
  have partOf : part.PartOf whole := .addFindings _ (.intoOther _ .itself)
  have invalid : part.report.valid = false := rfl
  obtain ⟨ofAssemblies, -⟩ := assembled_reports
  obtain ⟨-, findings, warnings, -⟩ := ofAssemblies whole
  refine ⟨⟨partOf, invalid⟩, (ofAssemblies before).1.2 rfl, ?_, findings, warnings⟩
  exact (ofAssemblies part).2.2.2 whole partOf invalid

end AdmissionPolicy
