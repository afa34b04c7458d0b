import AdmissionPolicy.Proofs.Coverage.Analysis

/-!
The comparison of two blocks as a table. For every dimension it is said on its own when the exclude
block leaves it open; the outcome names the first open one of those that are looked at.
-/

namespace AdmissionPolicy.Coverage

def ListOpen {α : Type} (excluded matched : List α) : Prop :=
  excluded ≠ [] ∧ (matched = [] ∨ ∃ value ∈ matched, value ∉ excluded)

def NamesOpen (excluded matched : List String) : Prop :=
  excluded ≠ [] ∧ (matched = [] ∨
    ∃ name ∈ matched, ∀ pattern ∈ excluded, Pattern.matchesName pattern name = false)

def LabelsOpen : (excluded matched : Option LabelSelector) → Prop
  | none, none => False
  | some excluded, some matched =>
      (∃ label ∈ excluded.labels.entries, label ∉ matched.labels.entries) ∨
        ∃ requirement ∈ excluded.requirements, requirement ∉ matched.requirements
  | _, _ => True

/-- The exclude filter leaves open a dimension of the match filter. The two dimensions of whole
blocks are not among those of a filter. -/
def Open (matched excluded : Filter) : Dimension → Prop
  | .anyEntries | .exclude => False
  | .roles => ListOpen excluded.requester.roles matched.requester.roles
  | .clusterRoles => ListOpen excluded.requester.clusterRoles matched.requester.clusterRoles
  | .subjects => ListOpen excluded.requester.subjects matched.requester.subjects
  | .name => excluded.resources.name ≠ "" ∧
      Pattern.matchesName excluded.resources.name matched.resources.name = false
  | .names => NamesOpen excluded.resources.names matched.resources.names
  | .namespaces => ListOpen excluded.resources.namespaces matched.resources.namespaces
  | .kinds => ListOpen excluded.resources.kinds matched.resources.kinds
  | .labels => LabelsOpen excluded.resources.labels matched.resources.labels
  | .namespaceLabels =>
      LabelsOpen excluded.resources.namespaceLabels matched.resources.namespaceLabels
  | .annotations => excluded.resources.annotations ≠ matched.resources.annotations

/-- The dimensions in the order in which they are looked at. Names in the exclude filter end it. -/
def compared (excluded : Filter) : List Dimension :=
  [.roles, .clusterRoles, .subjects, .name, .names] ++
    if excluded.resources.names = [] then
      [.namespaces, .kinds, .labels, .namespaceLabels, .annotations]
    else []

/-! ### Deciding what is open -/

instance {α : Type} [DecidableEq α] (excluded matched : List α) :
    Decidable (ListOpen excluded matched) :=
  inferInstanceAs (Decidable (_ ∧ _))

instance (excluded matched : List String) : Decidable (NamesOpen excluded matched) :=
  inferInstanceAs (Decidable (_ ∧ _))

instance : (excluded matched : Option LabelSelector) → Decidable (LabelsOpen excluded matched)
  | none, none => inferInstanceAs (Decidable False)
  | some _, some _ => inferInstanceAs (Decidable (_ ∨ _))
  | none, some _ | some _, none => inferInstanceAs (Decidable True)

instance (matched excluded : Filter) : DecidablePred (Open matched excluded)
  | .anyEntries | .exclude => inferInstanceAs (Decidable False)
  | .roles | .clusterRoles | .subjects | .namespaces | .kinds =>
      inferInstanceAs (Decidable (ListOpen _ _))
  | .name => inferInstanceAs (Decidable (_ ∧ _))
  | .names => inferInstanceAs (Decidable (NamesOpen _ _))
  | .labels | .namespaceLabels => inferInstanceAs (Decidable (LabelsOpen _ _))
  | .annotations => inferInstanceAs (Decidable (_ ≠ _))

/-- One row for each way in which the comparison of two blocks can go. -/
inductive Decides (matching excluding : Selector) : Outcome → Prop
  | skipped : matching.all ≠ [] ∨ excluding.all ≠ [] → Decides matching excluding .skipped
  | sameEntries : matching.all = [] → excluding.all = [] →
      matching.any ≠ [] → excluding.any ≠ [] →
      (∀ entry ∈ matching.any, entry ∈ excluding.any) → Decides matching excluding .empty
  | otherEntry : matching.all = [] → excluding.all = [] →
      matching.any ≠ [] → excluding.any ≠ [] →
      (∃ entry ∈ matching.any, entry ∉ excluding.any) →
      Decides matching excluding (.reachable .anyEntries)
  | nothingExcluded : matching.all = [] → excluding = .empty →
      Decides matching excluding (.reachable .exclude)
  | covered : matching.all = [] → excluding.all = [] →
      (matching.any = [] ∨ excluding.any = []) → excluding ≠ .empty →
      (∀ dimension ∈ compared excluding.direct,
        ¬Open matching.direct excluding.direct dimension) →
      Decides matching excluding .empty
  | firstOpen {before after : List Dimension} {dimension : Dimension} :
      matching.all = [] → excluding.all = [] →
      (matching.any = [] ∨ excluding.any = []) → excluding ≠ .empty →
      compared excluding.direct = before ++ dimension :: after →
      Open matching.direct excluding.direct dimension →
      (∀ earlier ∈ before, ¬Open matching.direct excluding.direct earlier) →
      Decides matching excluding (.reachable dimension)

/-! ### Single dimensions -/

theorem coversList_iff_not_open {α : Type} [BEq α] [LawfulBEq α] {excluded matched : List α} :
    coversList excluded matched = true ↔ ¬ListOpen excluded matched := by
  rw [coversList_eq_true_iff, ListOpen]
  by_cases none : excluded = []
  · simp [none]
  · simp [none]

theorem coversNames_iff_not_open {excluded matched : List String} (given : excluded ≠ []) :
    coversNames excluded matched = true ↔ ¬NamesOpen excluded matched := by
  simp [coversNames_eq_true_iff, NamesOpen, given]

theorem coversLabels_iff_not_open {excluded matched : Option LabelSelector} :
    coversLabels excluded matched = true ↔ ¬LabelsOpen excluded matched := by
  cases excluded with
  | none => cases matched <;> simp [coversLabels, LabelsOpen]
  | some excluded =>
      cases matched with
      | none => simp [coversLabels, LabelsOpen]
      | some matched =>
          rw [coversLabels_some_iff, LabelsOpen]
          simp [and_comm]

/-! ### The checks of one filter against another -/

variable {matched excluded : Filter}

theorem nameCheck_iff_not_open :
    (excluded.resources.name.isEmpty ||
      Pattern.matchesName excluded.resources.name matched.resources.name) = true ↔
      ¬Open matched excluded .name := by
  by_cases none : excluded.resources.name = ""
  · simp [Open, none]
  · simp [Open, none]

theorem leadingChecks_judged :
    ∀ check ∈ leadingChecks matched excluded,
      (check.2 = true ↔ ¬Open matched excluded check.1) := by
  simp only [leadingChecks, List.forall_mem_cons]
  exact ⟨coversList_iff_not_open, coversList_iff_not_open, coversList_iff_not_open,
    nameCheck_iff_not_open, List.forall_mem_nil _⟩

theorem closingChecks_judged :
    ∀ check ∈ closingChecks matched.resources excluded.resources,
      (check.2 = true ↔ ¬Open matched excluded check.1) := by
  simp only [closingChecks, List.forall_mem_cons]
  refine ⟨coversList_iff_not_open, coversList_iff_not_open, coversLabels_iff_not_open,
    coversLabels_iff_not_open, ?_, List.forall_mem_nil _⟩
  simp [Open]

theorem checks_judged :
    ∀ check ∈ checks matched excluded, (check.2 = true ↔ ¬Open matched excluded check.1) := by
  rw [checks, List.forall_mem_append]
  refine ⟨leadingChecks_judged, ?_⟩
  by_cases names : excluded.resources.names = []
  · rw [if_pos (by simpa using names)]
    exact closingChecks_judged
  · rw [if_neg (by simpa using names)]
    simpa [Open] using coversNames_iff_not_open names

theorem firstUncovered_eq_find? {checks : List (Dimension × Bool)} {isOpen : Dimension → Prop}
    [DecidablePred isOpen] (judged : ∀ check ∈ checks, (check.2 = true ↔ ¬isOpen check.1)) :
    firstUncovered checks = (checks.map Prod.fst).find? fun dimension => isOpen dimension := by
  induction checks with
  | nil => rfl
  | cons check checks ih =>
      obtain ⟨first, rest⟩ := List.forall_mem_cons.1 judged
      by_cases opened : isOpen check.1
      · have failed : check.2 = false := by simpa [opened] using first
        simp [firstUncovered, failed, opened]
      · have passed : check.2 = true := first.2 opened
        have behind := ih rest
        simp only [firstUncovered] at behind
        simp [firstUncovered, passed, opened, behind]

theorem firstUncovered_checks :
    firstUncovered (checks matched excluded) =
      (compared excluded).find? fun dimension => Open matched excluded dimension := by
  rw [firstUncovered_eq_find? checks_judged, checks, compared]
  by_cases names : excluded.resources.names = []
  · -- An exclude filter without names leaves none open, so the row for names says nothing.
    have closed : ¬Open matched excluded .names := fun opened => opened.1 names
    simp [names, closed, leadingChecks, closingChecks, List.find?_cons]
  · simp [names, leadingChecks]

theorem firstUncovered_checks_eq_none_iff :
    firstUncovered (checks matched excluded) = none ↔
      ∀ dimension ∈ compared excluded, ¬Open matched excluded dimension := by
  simp [firstUncovered_checks]

theorem checks_passed_iff_not_open :
    (∀ check ∈ checks matched excluded, check.2 = true) ↔
      ∀ dimension ∈ compared excluded, ¬Open matched excluded dimension := by
  rw [← firstUncovered_eq_none_iff, firstUncovered_checks_eq_none_iff]

theorem firstUncovered_checks_eq_some_iff {dimension : Dimension} :
    firstUncovered (checks matched excluded) = some dimension ↔
      ∃ before after, compared excluded = before ++ dimension :: after ∧
        Open matched excluded dimension ∧
        ∀ earlier ∈ before, ¬Open matched excluded earlier := by
  rw [firstUncovered_checks, List.find?_eq_some_iff_append]
  constructor
  · rintro ⟨opened, before, after, split, passed⟩
    exact ⟨before, after, split, by simpa using opened, by simpa using passed⟩
  · rintro ⟨before, after, split, opened, passed⟩
    exact ⟨by simpa using opened, before, after, split, by simpa using passed⟩

/-! ### Whole blocks -/

theorem decides_analyze (matching excluding : Selector) :
    Decides matching excluding (analyze matching excluding) := by
  by_cases all : matching.all ≠ [] ∨ excluding.all ≠ []
  · rw [analyze_of_all all]
    exact .skipped all
  · obtain ⟨matchAll, excludeAll⟩ : matching.all = [] ∧ excluding.all = [] := by
      simpa [not_or] using all
    by_cases any : matching.any ≠ [] ∧ excluding.any ≠ []
    · rw [analyze_of_any matchAll excludeAll any.1 any.2]
      by_cases listed : ∀ entry ∈ matching.any, entry ∈ excluding.any
      · rw [if_pos listed]
        exact .sameEntries matchAll excludeAll any.1 any.2 listed
      · rw [if_neg listed]
        exact .otherEntry matchAll excludeAll any.1 any.2 (by simpa using listed)
    · have direct : matching.any = [] ∨ excluding.any = [] := by
        simpa [Decidable.or_iff_not_imp_left] using any
      by_cases nothing : excluding = .empty
      · rw [analyze_of_nothing_excluded matchAll nothing]
        exact .nothingExcluded matchAll nothing
      · rw [analyze_of_direct matchAll excludeAll direct nothing]
        cases found : firstUncovered (checks matching.direct excluding.direct) with
        | none =>
            exact .covered matchAll excludeAll direct nothing
              (firstUncovered_checks_eq_none_iff.1 found)
        | some dimension =>
            obtain ⟨before, after, split, opened, passed⟩ :=
              firstUncovered_checks_eq_some_iff.1 found
            exact .firstOpen matchAll excludeAll direct nothing split opened passed

/-- The comparison of two blocks has the outcome that the table says, and no other. -/
theorem analyze_eq_iff_decides (matching excluding : Selector) (outcome : Outcome) :
    analyze matching excluding = outcome ↔ Decides matching excluding outcome := by
  constructor
  · rintro rfl
    exact decides_analyze matching excluding
  · intro decided
    cases decided with
    | skipped all => exact analyze_of_all all
    | sameEntries matchAll excludeAll matchAny excludeAny listed =>
        rw [analyze_of_any matchAll excludeAll matchAny excludeAny, if_pos listed]
    | otherEntry matchAll excludeAll matchAny excludeAny other =>
        obtain ⟨entry, member, absent⟩ := other
        rw [analyze_of_any matchAll excludeAll matchAny excludeAny, if_neg]
        exact fun listed => absent (listed entry member)
    | nothingExcluded matchAll nothing => exact analyze_of_nothing_excluded matchAll nothing
    | covered matchAll excludeAll direct given passed =>
        rw [analyze_of_direct matchAll excludeAll direct given,
          firstUncovered_checks_eq_none_iff.2 passed]
        rfl
    | firstOpen matchAll excludeAll direct given split opened passed =>
        rw [analyze_of_direct matchAll excludeAll direct given,
          firstUncovered_checks_eq_some_iff.2 ⟨_, _, split, opened, passed⟩]
        rfl

end AdmissionPolicy.Coverage
