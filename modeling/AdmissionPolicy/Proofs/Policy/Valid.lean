import AdmissionPolicy.Proofs.Policy.Run
import AdmissionPolicy.Proofs.Rule.Effects
import AdmissionPolicy.Proofs.Selector.WellFormed

/-!
Well-formed policies, stated without their check. The main statement is that a report calls a policy
valid exactly if it is well-formed.
-/

namespace AdmissionPolicy

structure Rule.WellFormed (rule : Rule) (scope : Scope) : Prop where
  oneEffect : rule.declaredOperations = 1
  reaches : Coverage.analyze rule.matching rule.excluding ≠ .empty
  matching : rule.matching.WellFormed scope
  excluding : rule.excluding.WellFormed scope

structure Rule.Named (rule : Rule) (settings : Settings) : Prop where
  given : rule.name ≠ ""
  short : rule.name.utf8ByteSize ≤ settings.maxNameLength

structure Policy.WellFormed (policy : Policy) (settings : Settings) : Prop where
  rules : policy.rules ≠ []
  named : ∀ rule ∈ policy.rules, rule.Named settings
  distinct : (policy.rules.map (·.name)).Nodup
  eachRule : ∀ rule ∈ policy.rules, rule.WellFormed (policy.scope settings)

theorem Rule.checkCoverage_eq_nil_iff {rule : Rule} {place : Location} :
    rule.checkCoverage place = [] ↔ Coverage.analyze rule.matching rule.excluding ≠ .empty := by
  unfold checkCoverage coverage
  split
  · simp_all
  · simp_all

theorem Rule.check_eq_nil_iff {rule : Rule} {place : Location} {scope : Scope} :
    rule.check Selector.check place scope = [] ↔ rule.WellFormed scope := by
  simp only [Rule.check, List.append_eq_nil_iff, checkOperation_eq_nil_iff,
    checkCoverage_eq_nil_iff, Selector.check_eq_nil_iff]
  constructor
  · rintro ⟨⟨⟨oneEffect, reaches⟩, matching⟩, excluding⟩
    exact ⟨oneEffect, reaches, matching, excluding⟩
  · rintro ⟨oneEffect, reaches, matching, excluding⟩
    exact ⟨⟨⟨oneEffect, reaches⟩, matching⟩, excluding⟩

namespace Policy

variable {settings : Settings} {policy : Policy}

theorem checkName_eq_nil_iff {names : List String} {rule : Rule} {place : Location} :
    checkName settings names rule place = [] ↔ rule.Named settings ∧ rule.name ∉ names := by
  unfold checkName
  by_cases given : rule.name = ""
  · rw [if_pos (by simpa using given)]
    constructor
    · intro found
      cases found
    · rintro ⟨named, _⟩
      exact absurd given named.given
  · rw [if_neg (by simpa using given), List.append_eq_nil_iff, findingIf_eq_nil_iff,
      findingIf_eq_nil_iff]
    constructor
    · rintro ⟨short, fresh⟩
      exact ⟨⟨given, by simpa using short⟩, by simpa using fresh⟩
    · rintro ⟨⟨_, short⟩, fresh⟩
      exact ⟨by simpa using short, by simpa using fresh⟩

theorem findingsFrom_eq_nil_iff {names : List String} {position : Nat} {rules : List Rule} :
    findingsFrom Selector.check settings policy names position rules = [] ↔
      (∀ rule ∈ rules, rule.Named settings) ∧ (rules.map (·.name)).Nodup ∧
        (∀ rule ∈ rules, rule.name ∉ names) ∧
        ∀ rule ∈ rules, rule.WellFormed (policy.scope settings) := by
  -- The names already taken are those of the earlier rules, so they grow along the list.
  induction rules generalizing names position with
  | nil => simp [findingsFrom]
  | cons rule rules ih =>
      simp only [findingsFrom, ruleFindings, List.append_eq_nil_iff, checkName_eq_nil_iff,
        Rule.check_eq_nil_iff, ih, List.forall_mem_cons, List.map_cons, List.nodup_cons]
      constructor
      · rintro ⟨⟨⟨named, fresh⟩, wellFormed⟩, restNamed, distinct, restFresh, restWellFormed⟩
        rw [namesBehind_of_given named.given] at restFresh
        have different : ∀ other ∈ rules, other.name ∉ names ∧ other.name ≠ rule.name := by
          intro other member
          simpa using restFresh other member
        refine ⟨⟨named, restNamed⟩, ⟨?_, distinct⟩,
          ⟨fresh, fun other member => (different other member).1⟩, wellFormed, restWellFormed⟩
        intro repeated
        obtain ⟨other, member, same⟩ := List.mem_map.1 repeated
        exact (different other member).2 same
      · rintro ⟨⟨named, restNamed⟩, ⟨first, distinct⟩, ⟨fresh, restFresh⟩, wellFormed,
          restWellFormed⟩
        refine ⟨⟨⟨named, fresh⟩, wellFormed⟩, restNamed, distinct, ?_, restWellFormed⟩
        intro other member repeated
        rw [namesBehind_of_given named.given] at repeated
        rcases List.mem_append.1 repeated with earlier | same
        · exact restFresh other member earlier
        · exact first (List.mem_map.2 ⟨other, member, List.mem_singleton.1 same⟩)

/-- A policy is valid exactly if it has rules, every rule is named, no two have one name, and every
rule has one effect, reaches something and has two well-formed blocks. -/
theorem check_valid_iff_wellFormed (settings : Settings) (policy : Policy) :
    (policy.check settings).valid = true ↔ policy.WellFormed settings := by
  rw [check, checkWith_valid_iff, findingsFrom_eq_nil_iff]
  constructor
  · rintro ⟨rules, named, distinct, _, eachRule⟩
    exact ⟨rules, named, distinct, eachRule⟩
  · rintro ⟨rules, named, distinct, eachRule⟩
    exact ⟨rules, named, distinct, fun _ _ => List.not_mem_nil, eachRule⟩

end Policy

end AdmissionPolicy
