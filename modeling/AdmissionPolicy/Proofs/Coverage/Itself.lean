import AdmissionPolicy.Proofs.Coverage.Table
import AdmissionPolicy.Proofs.Pattern.Matcher

/-!
Blocks that are compared with themselves. A block covers itself, and a filter is covered by what is
left of it when lists and the name are cleared.
-/

namespace AdmissionPolicy

theorem Pattern.matchesName_self (pattern : String) : matchesName pattern pattern = true :=
  matchesName_eq_true_iff.2 (accepts_self pattern.toList)

/-- The filter is what is left of a fuller one when any of its lists, or its name, are cleared.
Label predicates and annotations stay. -/
structure Filter.ClearedFrom (filter fuller : Filter) : Prop where
  roles : filter.requester.roles = [] ∨ filter.requester.roles = fuller.requester.roles
  clusterRoles : filter.requester.clusterRoles = [] ∨
    filter.requester.clusterRoles = fuller.requester.clusterRoles
  subjects : filter.requester.subjects = [] ∨
    filter.requester.subjects = fuller.requester.subjects
  name : filter.resources.name = "" ∨ filter.resources.name = fuller.resources.name
  names : filter.resources.names = [] ∨ filter.resources.names = fuller.resources.names
  namespaces : filter.resources.namespaces = [] ∨
    filter.resources.namespaces = fuller.resources.namespaces
  kinds : filter.resources.kinds = [] ∨ filter.resources.kinds = fuller.resources.kinds
  labels : filter.resources.labels = fuller.resources.labels
  namespaceLabels : filter.resources.namespaceLabels = fuller.resources.namespaceLabels
  annotations : filter.resources.annotations = fuller.resources.annotations

theorem Filter.clearedFrom_self (filter : Filter) : filter.ClearedFrom filter where
  roles := .inr rfl
  clusterRoles := .inr rfl
  subjects := .inr rfl
  name := .inr rfl
  names := .inr rfl
  namespaces := .inr rfl
  kinds := .inr rfl
  labels := rfl
  namespaceLabels := rfl
  annotations := rfl

namespace Coverage

/-! ### Single dimensions -/

theorem not_listOpen_of_cleared {α : Type} {values fuller : List α}
    (cleared : values = [] ∨ values = fuller) : ¬ListOpen values fuller := by
  rintro ⟨given, missing⟩
  obtain rfl := cleared.resolve_left given
  rcases missing with none | ⟨value, member, absent⟩
  · exact given none
  · exact absent member

theorem not_namesOpen_of_cleared {names fuller : List String}
    (cleared : names = [] ∨ names = fuller) : ¬NamesOpen names fuller := by
  rintro ⟨given, missing⟩
  obtain rfl := cleared.resolve_left given
  rcases missing with none | ⟨name, member, unmatched⟩
  · exact given none
  · -- Whatever its wildcards are, a pattern takes its own text.
    have own := unmatched name member
    rw [Pattern.matchesName_self] at own
    cases own

theorem not_labelsOpen_self (labels : Option LabelSelector) : ¬LabelsOpen labels labels := by
  cases labels with
  | none => exact id
  | some selector =>
      rintro (⟨label, member, absent⟩ | ⟨requirement, member, absent⟩)
      · exact absent member
      · exact absent member

/-! ### Whole filters and blocks -/

theorem not_open_of_clearedFrom {filter fuller : Filter} (cleared : filter.ClearedFrom fuller)
    (dimension : Dimension) : ¬Open fuller filter dimension := by
  cases dimension with
  | anyEntries => exact id
  | exclude => exact id
  | roles => exact not_listOpen_of_cleared cleared.roles
  | clusterRoles => exact not_listOpen_of_cleared cleared.clusterRoles
  | subjects => exact not_listOpen_of_cleared cleared.subjects
  | name =>
      rintro ⟨given, unmatched⟩
      rw [cleared.name.resolve_left given, Pattern.matchesName_self] at unmatched
      cases unmatched
  | names => exact not_namesOpen_of_cleared cleared.names
  | namespaces => exact not_listOpen_of_cleared cleared.namespaces
  | kinds => exact not_listOpen_of_cleared cleared.kinds
  | labels =>
      simp only [Open, cleared.labels]
      exact not_labelsOpen_self _
  | namespaceLabels =>
      simp only [Open, cleared.namespaceLabels]
      exact not_labelsOpen_self _
  | annotations => exact fun different => different cleared.annotations

theorem checks_passed_of_clearedFrom {filter fuller : Filter}
    (cleared : filter.ClearedFrom fuller) : ∀ check ∈ checks fuller filter, check.2 = true :=
  checks_passed_iff_not_open.2 fun dimension _ => not_open_of_clearedFrom cleared dimension

theorem analyze_self_iff (selector : Selector) :
    analyze selector selector = .empty ↔ selector.all = [] ∧ selector ≠ .empty := by
  rw [analyze_eq_empty_iff]
  constructor
  · rintro ⟨all, -, way⟩
    refine ⟨all, ?_⟩
    rintro rfl
    rcases way with ⟨any, -, -⟩ | ⟨-, given, -⟩
    · exact any rfl
    · exact given rfl
  · rintro ⟨all, given⟩
    refine ⟨all, all, ?_⟩
    by_cases any : selector.any = []
    · exact .inr ⟨.inl any, given, checks_passed_of_clearedFrom selector.direct.clearedFrom_self⟩
    · exact .inl ⟨any, any, fun _ member => member⟩

/-- A block covers itself exactly if it gives something and does not use `all`. A filter is covered
by whatever is left of it when lists and the name are cleared, as long as anything is left. -/
theorem analyze_self_eq_empty :
    (∀ selector : Selector, analyze selector selector = .empty ↔
      selector.all = [] ∧ selector.isEmpty = false) ∧
    ∀ filter fuller : Filter, filter.ClearedFrom fuller →
      (analyze (.ofFilter fuller) (.ofFilter filter) = .empty ↔ filter.isEmpty = false) := by
  constructor
  · intro selector
    rw [analyze_self_iff, ← Bool.not_eq_true, Selector.isEmpty_iff]
  · intro filter fuller cleared
    rw [analyze_ofFilter_eq_empty_iff, ← Bool.not_eq_true, Filter.isEmpty_iff]
    exact and_iff_left (checks_passed_of_clearedFrom cleared)

theorem analyze_self_eq_empty_brackets :
    analyze
        (.ofFilter (((Filter.empty.withName "[?]*").withNames ["db-[*", "?"]).withKinds ["Pod"]))
        (.ofFilter ((Filter.empty.withName "[?]*").withNames ["db-[*", "?"])) = .empty := by
  refine (analyze_self_eq_empty.2 _ _ ?_).2 (by decide)
  exact {
    roles := .inl rfl
    clusterRoles := .inl rfl
    subjects := .inl rfl
    name := .inr rfl
    names := .inr rfl
    namespaces := .inl rfl
    kinds := .inl rfl
    labels := rfl
    namespaceLabels := rfl
    annotations := rfl
  }

end Coverage

end AdmissionPolicy
