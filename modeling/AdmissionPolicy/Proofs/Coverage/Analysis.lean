import AdmissionPolicy.Coverage

/-!
What the comparison of two blocks has looked at when it proves the exclude block to cover the match
block.
-/

namespace AdmissionPolicy.Coverage

theorem firstUncovered_eq_none_iff {checks : List (Dimension × Bool)} :
    firstUncovered checks = none ↔ ∀ check ∈ checks, check.2 = true := by
  simp [firstUncovered]

theorem coversList_eq_true_iff {α : Type} [BEq α] [LawfulBEq α] {excluded matched : List α} :
    coversList excluded matched = true ↔
      excluded = [] ∨ matched ≠ [] ∧ ∀ value ∈ matched, value ∈ excluded := by
  simp [coversList, coversValues]

theorem coversNames_eq_true_iff {excluded matched : List String} :
    coversNames excluded matched = true ↔
      matched ≠ [] ∧ ∀ name ∈ matched, ∃ pattern ∈ excluded,
        Pattern.matchesName pattern name = true := by
  simp [coversNames]

theorem coversLabels_some_iff {excluded matched : LabelSelector} :
    coversLabels (some excluded) (some matched) = true ↔
      (∀ requirement ∈ excluded.requirements, requirement ∈ matched.requirements) ∧
        ∀ label ∈ excluded.labels.entries, label ∈ matched.labels.entries := by
  simp [coversLabels, Dict.get?_eq_some_iff_mem]

/-! ### What passed when all checks pass -/

theorem leadingChecks_passed_iff {matched excluded : Filter} :
    (∀ check ∈ leadingChecks matched excluded, check.2 = true) ↔
      coversList excluded.requester.roles matched.requester.roles = true ∧
        coversList excluded.requester.clusterRoles matched.requester.clusterRoles = true ∧
        coversList excluded.requester.subjects matched.requester.subjects = true ∧
        (excluded.resources.name = "" ∨
          Pattern.matchesName excluded.resources.name matched.resources.name = true) := by
  simp [leadingChecks]

theorem closingChecks_passed_iff {matched excluded : ResourceCriteria} :
    (∀ check ∈ closingChecks matched excluded, check.2 = true) ↔
      coversList excluded.namespaces matched.namespaces = true ∧
        coversList excluded.kinds matched.kinds = true ∧
        coversLabels excluded.labels matched.labels = true ∧
        coversLabels excluded.namespaceLabels matched.namespaceLabels = true ∧
        excluded.annotations = matched.annotations := by
  simp [closingChecks]

theorem checks_passed_iff {matched excluded : Filter} :
    (∀ check ∈ checks matched excluded, check.2 = true) ↔
      (∀ check ∈ leadingChecks matched excluded, check.2 = true) ∧
        (excluded.resources.names = [] →
          ∀ check ∈ closingChecks matched.resources excluded.resources, check.2 = true) ∧
        (excluded.resources.names ≠ [] →
          coversNames excluded.resources.names matched.resources.names = true) := by
  rw [checks, List.forall_mem_append]
  by_cases names : excluded.resources.names = []
  · simp [names]
  · simp [names]

/-! ### The ways a comparison can go -/

variable {matching excluding : Selector}

theorem analyze_of_all (all : matching.all ≠ [] ∨ excluding.all ≠ []) :
    analyze matching excluding = .skipped := by
  simp [analyze, all]

theorem analyze_of_any (matchAll : matching.all = []) (excludeAll : excluding.all = [])
    (matchAny : matching.any ≠ []) (excludeAny : excluding.any ≠ []) :
    analyze matching excluding =
      if ∀ entry ∈ matching.any, entry ∈ excluding.any then .empty
      else .reachable .anyEntries := by
  simp [analyze, matchAll, excludeAll, matchAny, excludeAny]

theorem analyze_of_nothing_excluded (matchAll : matching.all = []) (nothing : excluding = .empty) :
    analyze matching excluding = .reachable .exclude := by
  subst nothing
  simp [analyze, matchAll, Selector.isEmpty, Filter.isEmpty_iff, Selector.empty]

theorem analyze_of_direct (matchAll : matching.all = []) (excludeAll : excluding.all = [])
    (direct : matching.any = [] ∨ excluding.any = []) (given : excluding ≠ .empty) :
    analyze matching excluding =
      (firstUncovered (checks matching.direct excluding.direct)).elim .empty .reachable := by
  have notBoth : ¬(!matching.any.isEmpty && !excluding.any.isEmpty) = true := by
    rcases direct with none | none
    · simp [none]
    · simp [none]
  have notEmpty : ¬excluding.isEmpty = true := fun empty => given (Selector.isEmpty_iff.1 empty)
  rw [analyze, if_neg (by simp [matchAll, excludeAll]), if_neg notBoth, if_neg notEmpty]
  cases firstUncovered (checks matching.direct excluding.direct) <;> rfl

/-- The comparison proves coverage in two ways: every alternative of the match block is one of the
exclude block, or the direct criteria pass all checks. -/
theorem analyze_eq_empty_iff :
    analyze matching excluding = .empty ↔
      matching.all = [] ∧ excluding.all = [] ∧
        ((matching.any ≠ [] ∧ excluding.any ≠ [] ∧
            ∀ entry ∈ matching.any, entry ∈ excluding.any) ∨
          ((matching.any = [] ∨ excluding.any = []) ∧ excluding ≠ .empty ∧
            ∀ check ∈ checks matching.direct excluding.direct, check.2 = true)) := by
  by_cases all : matching.all ≠ [] ∨ excluding.all ≠ []
  · rw [analyze_of_all all]
    grind
  · obtain ⟨matchAll, excludeAll⟩ : matching.all = [] ∧ excluding.all = [] := by
      simpa [not_or] using all
    by_cases any : matching.any ≠ [] ∧ excluding.any ≠ []
    · rw [analyze_of_any matchAll excludeAll any.1 any.2]
      grind
    · have direct : matching.any = [] ∨ excluding.any = [] := by grind
      by_cases nothing : excluding = .empty
      · rw [analyze_of_nothing_excluded matchAll nothing]
        subst nothing
        simp [Selector.empty]
      · rw [analyze_of_direct matchAll excludeAll direct nothing,
          ← firstUncovered_eq_none_iff]
        cases firstUncovered (checks matching.direct excluding.direct) with
        | none => simp [matchAll, excludeAll, direct, nothing]
        | some dimension => grind

theorem analyze_ofFilter_eq_empty_iff {matched excluded : Filter} :
    analyze (.ofFilter matched) (.ofFilter excluded) = .empty ↔
      excluded ≠ .empty ∧ ∀ check ∈ checks matched excluded, check.2 = true := by
  rw [analyze_eq_empty_iff]
  simp [Selector.ofFilter, Selector.empty]

end AdmissionPolicy.Coverage
