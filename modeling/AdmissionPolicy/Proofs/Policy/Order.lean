import AdmissionPolicy.Proofs.Policy.Outcomes
import AdmissionPolicy.Proofs.Rule.Places

/-!
The order of the rules of a policy. It decides which of two rules with one name is called a
duplicate and at which places the findings are; what is found, and how often, does not depend on it.
-/

namespace AdmissionPolicy

namespace Finding

/-- What is wrong, without the place and the texts. -/
inductive Fault
  | missingOperation
  | multipleOperations
  | emptySelection
  | invalid
  | forbidden
  | required
  | duplicate
  | emptyPolicy
  deriving DecidableEq

def fault : Finding → Fault
  | missingOperation .. => .missingOperation
  | multipleOperations .. => .multipleOperations
  | emptySelection .. => .emptySelection
  | invalid .. => .invalid
  | forbidden .. => .forbidden
  | required .. => .required
  | duplicate .. => .duplicate
  | emptyPolicy .. => .emptyPolicy

def unplaced : Finding → Finding :=
  mapPlace fun _ => .root

theorem fault_unplaced (finding : Finding) : finding.unplaced.fault = finding.fault := by
  cases finding <;> rfl

theorem unplaced_within (outer : Location) (finding : Finding) :
    (finding.within outer).unplaced = finding.unplaced :=
  finding.mapPlace_mapPlace _ _

theorem map_unplaced_within (outer : Location) (findings : List Finding) :
    (findings.map (within outer)).map unplaced = findings.map unplaced := by
  simp only [List.map_map, Function.comp_def, unplaced_within]

end Finding

theorem Rule.check_unplaced (rule : Rule) (place : Location) (scope : Scope) :
    (rule.check Selector.check place scope).map Finding.unplaced =
      (rule.check Selector.check .root scope).map Finding.unplaced := by
  have moved := rule.check_within place .root scope
  rw [Location.append_root] at moved
  rw [moved, Finding.map_unplaced_within]

namespace Policy

def withRules (policy : Policy) (rules : List Rule) : Policy :=
  { policy with spec.rules := rules }

theorem nameFindings_unplaced (limit : Nat) (earlier : List String) (name : String)
    (place : Location) :
    (nameFindings limit earlier name place).map Finding.unplaced =
      (nameFindings limit earlier name .root).map Finding.unplaced := by
  unfold nameFindings
  by_cases given : name = ""
  · simp [given, Finding.unplaced, Finding.mapPlace]
  · simp [given, map_findingIf, Finding.unplaced, Finding.mapPlace]

/-! ### Names that count as taken -/

/-- Two lists of names that take the same names. An empty name is never taken. -/
def SameNames (names others : List String) : Prop :=
  ∀ name, name ≠ "" → (name ∈ names ↔ name ∈ others)

variable {names others : List String}

theorem SameNames.behind (same : SameNames names others) (rule : Rule) :
    SameNames (namesBehind names rule) (namesBehind others rule) := by
  intro name given
  rw [mem_namesBehind_iff given, mem_namesBehind_iff given, same name given]

theorem SameNames.exchange (same : SameNames names others) (first second : Rule) :
    SameNames (namesBehind (namesBehind names first) second)
      (namesBehind (namesBehind others second) first) := by
  intro name given
  simp only [mem_namesBehind_iff given, same name given]
  exact or_right_comm

theorem SameNames.nameFindings_eq (same : SameNames names others) (limit : Nat) (name : String)
    (place : Location) :
    nameFindings limit names name place = nameFindings limit others name place := by
  unfold nameFindings
  by_cases given : name = ""
  · simp [given]
  · simp [given, same name given]

theorem nameFindings_namesBehind (limit : Nat) {rule : Rule} {name : String}
    (different : name ≠ rule.name) (place : Location) :
    nameFindings limit (namesBehind names rule) name place =
      nameFindings limit names name place := by
  unfold nameFindings
  by_cases given : name = ""
  · simp [given]
  · simp [given, mem_namesBehind_iff given, different]

/-! ### Runs over reordered rules -/

variable (settings : Settings) (policy : Policy)

theorem ruleFindings_unplaced (names : List String) (position : Nat) (rule : Rule) :
    (ruleFindings Selector.check settings policy names position rule).map Finding.unplaced =
      (nameFindings settings.maxNameLength names rule.name .root).map Finding.unplaced
        ++ (rule.check Selector.check .root (policy.scope settings)).map Finding.unplaced := by
  rw [ruleFindings, checkName_eq_nameFindings fun _ => Iff.rfl, List.map_append,
    nameFindings_unplaced, Rule.check_unplaced]

theorem SameNames.findingsFrom_unplaced (same : SameNames names others) (position other : Nat)
    (rules : List Rule) :
    (findingsFrom Selector.check settings policy names position rules).map Finding.unplaced =
      (findingsFrom Selector.check settings policy others other rules).map Finding.unplaced := by
  induction rules generalizing names others position other with
  | nil => rfl
  | cons rule rules ih =>
      simp only [findingsFrom, List.map_append, ruleFindings_unplaced, same.nameFindings_eq]
      rw [ih (same.behind rule)]

/-- Two neighbours find the same in either order. If they have one name, the second of them is the
duplicate, whichever it is. -/
theorem SameNames.exchange_findings (same : SameNames names others) (first second : Rule)
    (position other : Nat) :
    ((ruleFindings Selector.check settings policy names position first
        ++ ruleFindings Selector.check settings policy (namesBehind names first) (position + 1)
          second).map Finding.unplaced).Perm
      ((ruleFindings Selector.check settings policy others other second
        ++ ruleFindings Selector.check settings policy (namesBehind others second) (other + 1)
          first).map Finding.unplaced) := by
  simp only [List.map_append, ruleFindings_unplaced, same.nameFindings_eq,
    (same.behind _).nameFindings_eq]
  by_cases oneName : first.name = second.name
  · have behind : namesBehind others first = namesBehind others second := by
      simp only [namesBehind, oneName]
    rw [oneName, behind, List.perm_iff_count]
    intro finding
    simp only [List.count_append]
    omega
  · rw [nameFindings_namesBehind _ (Ne.symm oneName), nameFindings_namesBehind _ oneName]
    exact List.perm_append_comm

theorem findingsFrom_perm {rules reordered : List Rule} (perm : rules.Perm reordered)
    (same : SameNames names others) (position other : Nat) :
    ((findingsFrom Selector.check settings policy names position rules).map
        Finding.unplaced).Perm
      ((findingsFrom Selector.check settings policy others other reordered).map
        Finding.unplaced) := by
  -- The induction is on the exchanges of neighbours that lead from one order to the other.
  induction perm generalizing names others position other with
  | nil => exact .refl _
  | cons rule _ ih =>
      simp only [findingsFrom, List.map_append, ruleFindings_unplaced, same.nameFindings_eq]
      exact (ih (same.behind rule) _ _).append_left _
  | swap second first rules =>
      have heads := same.exchange_findings settings policy first second position other
      have tails := (same.exchange first second).findingsFrom_unplaced settings policy
        (position + 1 + 1) (other + 1 + 1) rules
      simp only [findingsFrom, List.map_append, ← List.append_assoc] at heads ⊢
      rw [tails]
      exact heads.append_right _
  | trans _ _ ihLeft ihRight =>
      exact (ihLeft same position other).trans (ihRight (fun _ _ => Iff.rfl) other other)

theorem findingsFrom_withRules (rules : List Rule) :
    findingsFrom Selector.check settings (policy.withRules rules) =
      findingsFrom Selector.check settings policy := by
  funext names position others
  induction others generalizing names position with
  | nil => rfl
  | cons rule others ih =>
      rw [findingsFrom, findingsFrom, ih]
      rfl

theorem length_flatten_mapIdx {blockOf : Nat → Rule → List Warning}
    (each : ∀ position rule,
      (blockOf position rule).length = if warnsAbout settings rule then 1 else 0)
    (rules : List Rule) :
    (rules.mapIdx blockOf).flatten.length = rules.countP (warnsAbout settings) := by
  induction rules generalizing blockOf with
  | nil => rfl
  | cons rule rules ih =>
      rw [List.mapIdx_cons, List.flatten_cons, List.length_append, each,
        ih fun position => each (position + 1), List.countP_cons, Nat.add_comm]

theorem check_warnings_length :
    (policy.check settings).warnings.length = policy.rules.countP (warnsAbout settings) := by
  by_cases none : policy.rules = []
  · rw [check_of_no_rules none, none]
    rfl
  · rw [check, checkWith_report none]
    apply length_flatten_mapIdx
    intro position rule
    unfold ruleWarnings
    split <;> rfl

theorem check_findings_perm {rules : List Rule} (perm : policy.rules.Perm rules) :
    ((policy.check settings).findings.map Finding.unplaced).Perm
      (((policy.withRules rules).check settings).findings.map Finding.unplaced) := by
  by_cases none : policy.rules = []
  · have stillNone : (policy.withRules rules).rules = [] := List.nil_perm.1 (none ▸ perm)
    rw [check_of_no_rules none, check_of_no_rules stillNone]
  · have given : (policy.withRules rules).rules ≠ [] :=
      fun empty => none (List.perm_nil.1 (empty ▸ perm))
    rw [check, checkWith_findings none, check, checkWith_findings given, findingsFrom_withRules]
    exact findingsFrom_perm settings policy perm (fun _ _ => Iff.rfl) 0 0

/-- The order of the rules changes neither the verdict nor what is found how often, places apart. -/
theorem check_counts_perm (settings : Settings) (policy : Policy) {rules : List Rule}
    (perm : policy.rules.Perm rules) :
    let report := policy.check settings
    let other := (policy.withRules rules).check settings
    report.valid = other.valid ∧
      report.findings.length = other.findings.length ∧
      (∀ fault : Finding.Fault,
        report.findings.countP (·.fault = fault) = other.findings.countP (·.fault = fault)) ∧
      report.warnings.length = other.warnings.length ∧
      (report.findings.map Finding.unplaced).Perm (other.findings.map Finding.unplaced) := by
  intro report other
  have found : (report.findings.map Finding.unplaced).Perm (other.findings.map Finding.unplaced) :=
    check_findings_perm settings policy perm
  have length : report.findings.length = other.findings.length := by
    simpa only [List.length_map] using found.length_eq
  refine ⟨?_, length, ?_, ?_, found⟩
  · have inStep : report.InStep := checkWith_inStep
    have otherInStep : other.InStep := checkWith_inStep
    have bothEmpty : report.findings = [] ↔ other.findings = [] := by
      rw [← List.length_eq_zero_iff, length, List.length_eq_zero_iff]
    rw [Bool.eq_iff_iff]
    exact inStep.trans (bothEmpty.trans otherInStep.symm)
  · intro fault
    have counted := found.countP_eq (·.fault = fault)
    simpa only [List.countP_map, Function.comp_def, Finding.fault_unplaced] using counted
  · rw [check_warnings_length, check_warnings_length]
    exact perm.countP_eq _

theorem check_counts_perm_repeated :
    let noEffect := Rule.ofName "a"
    let validating := { Rule.ofName "a" with
      validate := { Effect.Validation.empty with message := "m" } }
    let policy := ((default : Policy).addRule noEffect).addRule validating
    let reordered := policy.withRules [validating, noEffect]
    policy.rules.Perm [validating, noEffect] ∧
      (policy.check .standard).findings =
        [.missingOperation (rulePlace 0) "a", .duplicate ((rulePlace 1).child "name") "a"] ∧
      (reordered.check .standard).findings =
        [.duplicate ((rulePlace 1).child "name") "a", .missingOperation (rulePlace 1) "a"] ∧
      (reordered.check .standard).valid = false ∧
      (reordered.check .standard).findings.countP (·.fault = .duplicate) = 1 := by
  intro noEffect validating policy reordered
  have perm : policy.rules.Perm [validating, noEffect] := List.Perm.swap _ _ []
  obtain ⟨valid, _, faults, _⟩ := check_counts_perm .standard policy perm
  refine ⟨perm, by decide, by decide, ?_, ?_⟩
  · rw [← valid]
    decide
  · rw [← faults]
    decide

end Policy

end AdmissionPolicy
