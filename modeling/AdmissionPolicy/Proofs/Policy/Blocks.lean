import AdmissionPolicy.Proofs.Policy.Run

/-!
The findings about a policy as one block for each rule. Of the other rules a block takes only the
names of those before it, so a further rule only adds a block, and a changed rule changes its own.
-/

namespace AdmissionPolicy.Policy

def nameFindings (limit : Nat) (earlier : List String) (name : String) (place : Location) :
    List Finding :=
  if name = "" then [.required (place.child "name") "rule name is required"]
  else
    findingIf (limit < name.utf8ByteSize)
        (.invalid (place.child "name") name s!"must be no more than {limit} characters")
      ++ findingIf (name ∈ earlier) (.duplicate (place.child "name") name)

def namesBefore (policy : Policy) (position : Nat) : List String :=
  (policy.rules.take position).map (·.name)

def replaceRule (policy : Policy) (position : Nat) (rule : Rule) : Policy :=
  { policy with spec.rules := policy.spec.rules.set position rule }

section

variable (selectorCheck : SelectorCheck) (settings : Settings) (policy : Policy)

def block (position : Nat) (rule : Rule) : List Finding :=
  let place := rulePlace position
  let scope : Scope := ⟨settings.forceNamespaced.getD policy.isNamespaced, settings.clusterKinds⟩
  nameFindings settings.maxNameLength (policy.namesBefore position) rule.name place
    ++ rule.checkOperation place
    ++ rule.checkCoverage place
    ++ selectorCheck rule.matching (place.child "match") scope
    ++ selectorCheck rule.excluding (place.child "exclude") scope

def blocks : List (List Finding) :=
  policy.rules.mapIdx (policy.block selectorCheck settings)

def warningBlocks : List (List Warning) :=
  policy.rules.mapIdx (ruleWarnings settings)

variable {selectorCheck settings policy}

theorem checkName_eq_nameFindings {names earlier : List String} {rule : Rule} {place : Location}
    (same : rule.name ≠ "" → (rule.name ∈ names ↔ rule.name ∈ earlier)) :
    checkName settings names rule place =
      nameFindings settings.maxNameLength earlier rule.name place := by
  unfold checkName nameFindings
  by_cases given : rule.name = ""
  · simp [given]
  · simp [given, same given]

theorem ruleFindings_eq_block {names : List String} {position : Nat} {rule : Rule}
    (same : rule.name ≠ "" → (rule.name ∈ names ↔ rule.name ∈ policy.namesBefore position)) :
    ruleFindings selectorCheck settings policy names position rule =
      policy.block selectorCheck settings position rule := by
  rw [ruleFindings, checkName_eq_nameFindings same]
  simp only [block, Rule.check, scope, List.append_assoc]

theorem mem_namesBehind_iff {names : List String} {rule : Rule} {name : String}
    (given : name ≠ "") :
    name ∈ namesBehind names rule ↔ name ∈ names ∨ name = rule.name := by
  by_cases unnamed : rule.name = ""
  · simp [namesBehind, unnamed, given]
  · rw [namesBehind_of_given unnamed, List.mem_append, List.mem_singleton]

/-- What a run over the rules lists about each of them, given its position and the names before it. -/
def collect {α : Type} (about : List String → Nat → Rule → List α) :
    List String → Nat → List Rule → List α
  | _, _, [] => []
  | names, position, rule :: rules =>
      about names position rule ++ collect about (namesBehind names rule) (position + 1) rules

theorem collect_eq_flatten {α : Type} {about : List String → Nat → Rule → List α}
    {blockOf : Nat → Rule → List α}
    (each : ∀ names position rule,
      (rule.name ≠ "" → (rule.name ∈ names ↔ rule.name ∈ policy.namesBefore position)) →
        about names position rule = blockOf position rule)
    {names : List String} {earlier rest : List Rule} (split : policy.rules = earlier ++ rest)
    (same : ∀ name, name ≠ "" → (name ∈ names ↔ name ∈ earlier.map (·.name))) :
    collect about names earlier.length rest =
      (rest.mapIdx fun offset rule => blockOf (earlier.length + offset) rule).flatten := by
  -- The names taken so far leave out empty ones, which are never compared.
  induction rest generalizing names earlier with
  | nil => rfl
  | cons rule rest ih =>
      have before : policy.namesBefore earlier.length = earlier.map (·.name) := by
        rw [namesBefore, split, List.take_left]
      have first : about names earlier.length rule = blockOf earlier.length rule := by
        apply each
        intro given
        rw [before]
        exact same rule.name given
      have behind : ∀ name, name ≠ "" →
          (name ∈ namesBehind names rule ↔ name ∈ (earlier ++ [rule]).map (·.name)) := by
        intro name given
        rw [mem_namesBehind_iff given, same name given]
        simp
      have later : collect about (namesBehind names rule) (earlier ++ [rule]).length rest = _ :=
        ih (by simpa using split) behind
      rw [List.length_append, List.length_singleton] at later
      rw [collect, first, later, List.mapIdx_cons, List.flatten_cons]
      simp only [Nat.add_zero, Nat.add_assoc, Nat.add_comm 1]

theorem collect_rules {α : Type} {about : List String → Nat → Rule → List α}
    {blockOf : Nat → Rule → List α}
    (each : ∀ names position rule,
      (rule.name ≠ "" → (rule.name ∈ names ↔ rule.name ∈ policy.namesBefore position)) →
        about names position rule = blockOf position rule) :
    collect about [] 0 policy.rules = (policy.rules.mapIdx blockOf).flatten := by
  have listed : collect about [] ([] : List Rule).length policy.rules = _ :=
    collect_eq_flatten each rfl (by simp)
  simpa only [List.length_nil, Nat.zero_add] using listed

theorem findingsFrom_eq_collect (names : List String) (position : Nat) (rules : List Rule) :
    findingsFrom selectorCheck settings policy names position rules =
      collect (ruleFindings selectorCheck settings policy) names position rules := by
  induction rules generalizing names position with
  | nil => rfl
  | cons rule rules ih => rw [findingsFrom, collect, ih]

theorem checkRules_findings_eq_blocks :
    (checkRules selectorCheck settings policy .start 0 policy.rules).report.findings =
      (policy.blocks selectorCheck settings).flatten := by
  rw [checkRules_findings, findingsFrom_eq_collect]
  exact collect_rules fun _ _ _ same => ruleFindings_eq_block same

theorem checkRules_warnings {progress : Progress} {position : Nat} (rules : List Rule) :
    (checkRules selectorCheck settings policy progress position rules).report.warnings =
      progress.report.warnings ++
        (rules.mapIdx fun offset rule => ruleWarnings settings (position + offset) rule).flatten := by
  induction rules generalizing progress position with
  | nil => simp [checkRules]
  | cons rule rules ih =>
      rw [checkRules, ih, checkRule_eq, List.mapIdx_cons, List.flatten_cons]
      simp only [Nat.add_zero, Nat.add_assoc, Nat.add_comm 1, List.append_assoc]

theorem checkRules_warnings_eq_blocks :
    (checkRules selectorCheck settings policy .start 0 policy.rules).report.warnings =
      (policy.warningBlocks settings).flatten := by
  simp only [checkRules_warnings, Nat.zero_add]
  rfl

/-- The whole report on a policy with rules. -/
theorem checkWith_report (given : policy.rules ≠ []) :
    (checkWith selectorCheck settings policy).1 =
      { valid := (policy.blocks selectorCheck settings).flatten.isEmpty
        findings := (policy.blocks selectorCheck settings).flatten
        warnings := (policy.warningBlocks settings).flatten } := by
  have inStep : (checkRules selectorCheck settings policy .start 0 policy.rules).report.InStep :=
    checkRules_inStep policy.rules Report.inStep_clean
  rw [checkWith, if_neg (by simpa using given)]
  rw [Report.InStep, checkRules_findings_eq_blocks, ← List.isEmpty_iff, ← Bool.eq_iff_iff] at inStep
  rw [← inStep, ← checkRules_findings_eq_blocks, ← checkRules_warnings_eq_blocks]

theorem filter_blocks (keeps : Finding → Bool) :
    (policy.blocks selectorCheck settings).flatten.filter keeps =
      (policy.rules.mapIdx fun position rule =>
        (policy.block selectorCheck settings position rule).filter keeps).flatten := by
  simp only [blocks, List.filter_flatten, List.mapIdx_eq_zipIdx_map, List.map_map,
    Function.comp_def]

theorem namesBefore_addRule {position : Nat} (bound : position ≤ policy.rules.length)
    (rule : Rule) : (policy.addRule rule).namesBefore position = policy.namesBefore position := by
  have rules : (policy.addRule rule).rules = policy.rules ++ [rule] := rfl
  rw [namesBefore, rules, List.take_append_of_le_length bound, namesBefore]

theorem block_addRule {position : Nat} (bound : position ≤ policy.rules.length) (further rule : Rule) :
    (policy.addRule further).block selectorCheck settings position rule =
      policy.block selectorCheck settings position rule := by
  simp only [block, namesBefore_addRule bound]
  rfl

theorem blocks_addRule (rule : Rule) :
    (policy.addRule rule).blocks selectorCheck settings =
      policy.blocks selectorCheck settings
        ++ [policy.block selectorCheck settings policy.rules.length rule] := by
  have rules : (policy.addRule rule).rules = policy.rules ++ [rule] := rfl
  rw [blocks, rules, List.mapIdx_concat, block_addRule (Nat.le_refl _), blocks]
  congr 1
  rw [List.mapIdx_eq_mapIdx_iff]
  intro position bound
  exact block_addRule (Nat.le_of_lt bound) rule _

theorem warningBlocks_addRule (rule : Rule) :
    (policy.addRule rule).warningBlocks settings =
      policy.warningBlocks settings ++ [ruleWarnings settings policy.rules.length rule] := by
  have rules : (policy.addRule rule).rules = policy.rules ++ [rule] := rfl
  rw [warningBlocks, rules, List.mapIdx_concat, warningBlocks]

theorem namesBefore_replaceRule {changed : Nat} (bound : changed < policy.rules.length)
    {rule : Rule} (sameName : rule.name = policy.rules[changed].name) (position : Nat) :
    (policy.replaceRule changed rule).namesBefore position = policy.namesBefore position := by
  have rules : (policy.replaceRule changed rule).rules = policy.rules.set changed rule := rfl
  have names : (policy.rules.set changed rule).map (·.name) = policy.rules.map (·.name) := by
    have inNames : changed < (policy.rules.map (·.name)).length := by simpa using bound
    have held : rule.name = (policy.rules.map (·.name))[changed] := by
      rw [List.getElem_map]
      exact sameName
    rw [List.map_set, held]
    exact List.set_getElem_self inNames
  rw [namesBefore, rules, List.map_take, names, ← List.map_take, namesBefore]

theorem blocks_replaceRule {changed : Nat} (bound : changed < policy.rules.length) {rule : Rule}
    (sameName : rule.name = policy.rules[changed].name) :
    (policy.replaceRule changed rule).blocks selectorCheck settings =
      (policy.blocks selectorCheck settings).set changed
        (policy.block selectorCheck settings changed rule) := by
  have rules : (policy.replaceRule changed rule).rules = policy.rules.set changed rule := rfl
  have same : (policy.replaceRule changed rule).block selectorCheck settings =
      policy.block selectorCheck settings := by
    funext position other
    simp only [block, namesBefore_replaceRule bound sameName]
    rfl
  rw [blocks, rules, same, List.mapIdx_set, blocks]

theorem warningBlocks_replaceRule (changed : Nat) (rule : Rule) :
    (policy.replaceRule changed rule).warningBlocks settings =
      (policy.warningBlocks settings).set changed (ruleWarnings settings changed rule) := by
  have rules : (policy.replaceRule changed rule).rules = policy.rules.set changed rule := rfl
  rw [warningBlocks, rules, List.mapIdx_set, warningBlocks]

end

/-- The report on a policy with rules is one block for each rule. A further rule adds its block at
the end, and a rule that changes under its name changes its own block. -/
theorem checkWith_eq_blocks (selectorCheck : SelectorCheck) (settings : Settings) (policy : Policy)
    (given : policy.rules ≠ []) :
    let report := (checkWith selectorCheck settings policy).1
    (report.findings = (policy.blocks selectorCheck settings).flatten ∧
        report.warnings = (policy.warningBlocks settings).flatten) ∧
      (∀ rule,
        let longer := (checkWith selectorCheck settings (policy.addRule rule)).1
        longer.findings =
            report.findings ++ policy.block selectorCheck settings policy.rules.length rule ∧
          longer.warnings = report.warnings ++ ruleWarnings settings policy.rules.length rule) ∧
      ∀ (position : Nat) (bound : position < policy.rules.length) (rule : Rule),
        rule.name = policy.rules[position].name →
          let changed := (checkWith selectorCheck settings (policy.replaceRule position rule)).1
          changed.findings =
              ((policy.blocks selectorCheck settings).set position
                (policy.block selectorCheck settings position rule)).flatten ∧
            changed.warnings =
              ((policy.warningBlocks settings).set position
                (ruleWarnings settings position rule)).flatten := by
  intro report
  have reported : report = _ := checkWith_report given
  refine ⟨by simp [reported], ?_, ?_⟩
  · intro rule longer
    have longerGiven : (policy.addRule rule).rules ≠ [] := by
      simp [rules, addRule]
    have longerReported : longer = _ := checkWith_report longerGiven
    rw [longerReported, reported, blocks_addRule, warningBlocks_addRule]
    simp only [List.flatten_concat, and_self]
  · intro position bound rule sameName changed
    have changedGiven : (policy.replaceRule position rule).rules ≠ [] := by
      simpa [rules, replaceRule] using given
    have changedReported : changed = _ := checkWith_report changedGiven
    rw [changedReported, blocks_replaceRule bound sameName, warningBlocks_replaceRule]
    exact ⟨rfl, rfl⟩

theorem checkWith_eq_blocks_repeated :
    let policy := (default : Policy).addRule (.ofName "a")
    let validating := { Rule.ofName "a" with
      validate := { Effect.Validation.empty with message := "m" } }
    policy.rules ≠ [] ∧
      (checkWith Selector.check .standard (policy.addRule (.ofName "a"))).1.findings =
        [ .missingOperation (rulePlace 0) "a", .duplicate ((rulePlace 1).child "name") "a",
          .missingOperation (rulePlace 1) "a" ] ∧
      (checkWith Selector.check .standard (policy.replaceRule 0 validating)).1.findings = [] := by
  intro policy validating
  have given : policy.rules ≠ [] := by simp [policy, addRule, rules]
  obtain ⟨⟨findings, _⟩, longer, changed⟩ :=
    checkWith_eq_blocks Selector.check .standard policy given
  refine ⟨given, ?_, ?_⟩
  · rw [(longer (.ofName "a")).1, findings]
    decide
  · rw [(changed 0 (by decide) validating rfl).1]
    decide

end AdmissionPolicy.Policy
