import AdmissionPolicy.Proofs.Policy.Valid
import AdmissionPolicy.Proofs.Rule.Kinds

/-!
What a valid policy of one namespace names: no kind from outside of namespaces, and no namespace.
-/

namespace AdmissionPolicy

def Selector.filters (selector : Selector) : List Filter :=
  selector.direct :: (selector.any ++ selector.all)

def Rule.filters (rule : Rule) : List Filter :=
  rule.matching.filters ++ rule.excluding.filters

theorem Selector.WellFormed.filters {selector : Selector} {scope : Scope}
    (wellFormed : selector.WellFormed scope) :
    ∀ filter ∈ selector.filters, filter.WellFormed scope := by
  rw [Selector.filters, List.forall_mem_cons, List.forall_mem_append]
  exact ⟨wellFormed.direct, wellFormed.any, wellFormed.all⟩

theorem Rule.WellFormed.filters {rule : Rule} {scope : Scope} (wellFormed : rule.WellFormed scope) :
    ∀ filter ∈ rule.filters, filter.WellFormed scope := by
  rw [Rule.filters, List.forall_mem_append]
  exact ⟨wellFormed.matching.filters, wellFormed.excluding.filters⟩

theorem Rule.WellFormed.not_mem_kinds {rule : Rule} {scope : Scope}
    (wellFormed : rule.WellFormed scope) (namespaced : scope.namespaced = true) {kind : String}
    (outside : scope.clusterKinds.contains kind = true) :
    kind ∉ rule.matchKinds ++ rule.excludeKinds := by
  have clean : rule.check Selector.check .root scope = [] := Rule.check_eq_nil_iff.2 wellFormed
  have counted := rule.countP_check .root scope
  rw [clean, Scope.countOutside, if_pos namespaced] at counted
  intro named
  exact List.countP_eq_zero.1 counted.symm kind named outside

namespace Policy

variable {settings : Settings} {policy : Policy}

theorem wellFormed_of_check_valid (valid : (policy.check settings).valid = true) :
    ∀ rule ∈ policy.rules, rule.WellFormed (policy.scope settings) := by
  rw [check, checkWith_valid_iff, findingsFrom_eq_nil_iff] at valid
  exact valid.2.2.2.2

theorem mem_matchKinds_iff {kind : String} :
    kind ∈ policy.matchKinds ↔ ∃ rule ∈ policy.rules, kind ∈ rule.matchKinds := by
  rw [matchKinds, mem_firstOccurrences_iff, List.mem_flatMap]
  rfl

theorem mem_excludeKinds_iff {kind : String} :
    kind ∈ policy.excludeKinds ↔ ∃ rule ∈ policy.rules, kind ∈ rule.excludeKinds := by
  rw [excludeKinds, mem_firstOccurrences_iff, List.mem_flatMap]
  rfl

/-- In a namespace, the check of a rule forbids as many kinds as its blocks name from outside of
namespaces, and elsewhere none. So a valid policy of one namespace names no such kind, and none of
its filters names a namespace. -/
theorem check_forbids_named_kinds :
    (∀ (rule : Rule) (place : Location) (clusterKinds : TextSet),
        (rule.check Selector.check place ⟨true, clusterKinds⟩).countP Finding.isOnKind =
            (rule.matchKinds ++ rule.excludeKinds).countP clusterKinds.contains ∧
          (rule.check Selector.check place ⟨false, clusterKinds⟩).countP Finding.isOnKind = 0) ∧
      ∀ (settings : Settings) (policy : Policy),
        (policy.check settings).valid = true →
        settings.forceNamespaced.getD policy.isNamespaced = true →
          (∀ kind ∈ settings.clusterKinds.keys,
              kind ∉ policy.matchKinds ∧ kind ∉ policy.excludeKinds) ∧
            ∀ rule ∈ policy.rules, ∀ filter ∈ rule.filters, filter.resources.namespaces = [] := by
  refine ⟨?_, ?_⟩
  · intro rule place clusterKinds
    exact ⟨rule.countP_check place _, rule.countP_check place _⟩
  · intro settings policy valid namespaced
    have wellFormed := wellFormed_of_check_valid valid
    refine ⟨?_, ?_⟩
    · intro kind outside
      have unnamed : ∀ rule ∈ policy.rules, kind ∉ rule.matchKinds ++ rule.excludeKinds :=
        fun rule member => (wellFormed rule member).not_mem_kinds namespaced
          (Dict.contains_iff_mem_keys.2 outside)
      constructor
      · intro named
        obtain ⟨rule, member, inRule⟩ := mem_matchKinds_iff.1 named
        exact unnamed rule member (List.mem_append_left _ inRule)
      · intro named
        obtain ⟨rule, member, inRule⟩ := mem_excludeKinds_iff.1 named
        exact unnamed rule member (List.mem_append_right _ inRule)
    · intro rule member filter inRule
      exact ((wellFormed rule member).filters filter inRule).inScope namespaced |>.namespaces

theorem check_forbids_named_kinds_pods :
    let pods := Filter.empty.withKinds ["Pod"]
    let rule := { Rule.ofName "pods" with
      matching := .anyOf [pods]
      validate := { Effect.Validation.empty with message := "m" } }
    let policy := { (default : Policy) with kind := namespacedKind }.addRule rule
    (policy.check .standard).valid = true ∧
      Settings.standard.forceNamespaced.getD policy.isNamespaced = true ∧
      "Namespace" ∈ Settings.standard.clusterKinds.keys ∧ "Namespace" ∉ policy.matchKinds ∧
      pods.resources.namespaces = [] := by
  intro pods rule policy
  have valid : (policy.check .standard).valid = true := by decide
  have namespaced : Settings.standard.forceNamespaced.getD policy.isNamespaced = true := by decide
  have outside : "Namespace" ∈ Settings.standard.clusterKinds.keys := by decide +kernel
  have named : pods ∈ rule.filters := by decide
  obtain ⟨kinds, namespaces⟩ := check_forbids_named_kinds.2 .standard policy valid namespaced
  exact ⟨valid, namespaced, outside, (kinds "Namespace" outside).1,
    namespaces rule (by simp [policy, addRule, rules]) pods named⟩

end Policy

end AdmissionPolicy
