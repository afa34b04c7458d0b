import AdmissionPolicy.Proofs.Coverage.Narrowing

/-!
Blocks that list the same values. The comparison of two blocks, and the dimension that it reports,
do not depend on the order in which values are listed or on how often they are.
-/

namespace AdmissionPolicy

def SameValues {α : Type} (values others : List α) : Prop :=
  ∀ value, value ∈ values ↔ value ∈ others

structure LabelSelector.Alike (selector other : LabelSelector) : Prop where
  labels : selector.labels = other.labels
  requirements : SameValues selector.requirements other.requirements

structure Filter.Alike (filter other : Filter) : Prop where
  roles : SameValues filter.requester.roles other.requester.roles
  clusterRoles : SameValues filter.requester.clusterRoles other.requester.clusterRoles
  subjects : SameValues filter.requester.subjects other.requester.subjects
  name : filter.resources.name = other.resources.name
  names : SameValues filter.resources.names other.resources.names
  namespaces : SameValues filter.resources.namespaces other.resources.namespaces
  kinds : SameValues filter.resources.kinds other.resources.kinds
  labels : Option.Rel LabelSelector.Alike filter.resources.labels other.resources.labels
  namespaceLabels : Option.Rel LabelSelector.Alike filter.resources.namespaceLabels
    other.resources.namespaceLabels
  annotations : filter.resources.annotations = other.resources.annotations

/-- Alternatives are compared as they are. Of `all` it only counts whether it is used. -/
structure Selector.Alike (selector other : Selector) : Prop where
  any : SameValues selector.any other.any
  all : selector.all = [] ↔ other.all = []
  direct : selector.direct.Alike other.direct

/-! ### Blocks that list the same values are within each other -/

theorem SameValues.refl {α : Type} (values : List α) : SameValues values values :=
  fun _ => .rfl

theorem SameValues.symm {α : Type} {values others : List α} (same : SameValues values others) :
    SameValues others values :=
  fun value => (same value).symm

theorem SameValues.within {α : Type} {values others : List α} (same : SameValues values others) :
    ListWithin values others where
  contained value member := (same value).1 member
  given := by
    rintro rfl
    exact List.eq_nil_iff_forall_not_mem.2 fun value member =>
      List.not_mem_nil ((same value).2 member)

theorem rel_alike_symm {labels others : Option LabelSelector}
    (alike : Option.Rel LabelSelector.Alike labels others) :
    Option.Rel LabelSelector.Alike others labels := by
  cases alike with
  | none => exact .none
  | some alike => exact .some ⟨alike.labels.symm, alike.requirements.symm⟩

theorem rel_within_of_alike {labels others : Option LabelSelector}
    (alike : Option.Rel LabelSelector.Alike labels others) :
    Option.Rel LabelSelector.Within labels others := by
  cases alike with
  | none => exact .none
  | some alike =>
      refine .some ⟨fun label member => ?_, fun requirement member => ?_⟩
      · rwa [alike.labels]
      · exact (alike.requirements requirement).2 member

theorem Filter.Alike.symm {filter other : Filter} (alike : filter.Alike other) :
    other.Alike filter where
  roles := alike.roles.symm
  clusterRoles := alike.clusterRoles.symm
  subjects := alike.subjects.symm
  name := alike.name.symm
  names := alike.names.symm
  namespaces := alike.namespaces.symm
  kinds := alike.kinds.symm
  labels := rel_alike_symm alike.labels
  namespaceLabels := rel_alike_symm alike.namespaceLabels
  annotations := alike.annotations.symm

theorem Filter.Alike.within {filter other : Filter} (alike : filter.Alike other) :
    filter.Within other where
  roles := alike.roles.within
  clusterRoles := alike.clusterRoles.within
  subjects := alike.subjects.within
  name := alike.name
  names := alike.names.within
  namespaces := alike.namespaces.within
  kinds := alike.kinds.within
  labels := rel_within_of_alike alike.labels
  namespaceLabels := rel_within_of_alike alike.namespaceLabels
  annotations := alike.annotations

theorem Selector.Alike.within {selector other : Selector} (alike : selector.Alike other) :
    selector.Within other :=
  ⟨alike.any.within, alike.all, alike.direct.within⟩

theorem Filter.Alike.ofFilter {filter other : Filter} (alike : filter.Alike other) :
    (Selector.ofFilter filter).Alike (.ofFilter other) :=
  ⟨.refl [], .rfl, alike⟩

namespace Coverage

theorem open_iff_of_alike {matched matched' excluded excluded' : Filter} {dimension : Dimension}
    (sameMatch : matched.Alike matched') (sameExclude : excluded.Alike excluded') :
    Open matched excluded dimension ↔ Open matched' excluded' dimension := by
  constructor
  · exact fun opened => opened.of_within sameExclude.symm.within sameMatch.within
  · exact fun opened => opened.of_within sameExclude.within sameMatch.symm.within

theorem firstUncovered_of_alike {matched matched' excluded excluded' : Filter}
    (sameMatch : matched.Alike matched') (sameExclude : excluded.Alike excluded') :
    firstUncovered (checks matched excluded) = firstUncovered (checks matched' excluded') := by
  simp only [firstUncovered_checks, compared_of_within sameExclude.within,
    open_iff_of_alike sameMatch sameExclude]

theorem sameEntries_of_alike {matching matching' excluding excluding' : Selector}
    (sameMatch : matching.Alike matching') (sameExclude : excluding.Alike excluding') :
    (matching.any.all fun entry => excluding.any.contains entry) =
      matching'.any.all fun entry => excluding'.any.contains entry := by
  rw [Bool.eq_iff_iff]
  simp only [List.all_eq_true, List.contains_iff_mem, sameMatch.any _, sameExclude.any _]

/-- The order and the repetition of what is listed do not matter: blocks that list the same values
have the same outcome, down to the dimension that is reported. -/
theorem analyze_eq_of_alike {matching matching' excluding excluding' : Selector}
    (sameMatch : matching.Alike matching') (sameExclude : excluding.Alike excluding') :
    analyze matching excluding = analyze matching' excluding' := by
  obtain ⟨matchAny, matchAll, -⟩ := sameMatch.within.isEmpty_eq
  obtain ⟨excludeAny, excludeAll, excludeEmpty⟩ := sameExclude.within.isEmpty_eq
  simp only [analyze, matchAny, matchAll, excludeAny, excludeAll, excludeEmpty,
    sameEntries_of_alike sameMatch sameExclude,
    firstUncovered_of_alike sameMatch.direct sameExclude.direct]

theorem analyze_eq_of_alike_repeated :
    analyze (.ofFilter ((Filter.empty.withNames ["web-1", "db-1"]).withRoles ["dev"]))
        (.ofFilter ((Filter.empty.withNames ["web-*", "api"]).withRoles ["ops", "dev"])) =
        .reachable .names ∧
      analyze
        (.ofFilter ((Filter.empty.withNames ["db-1", "web-1", "db-1"]).withRoles ["dev", "dev"]))
        (.ofFilter ((Filter.empty.withNames ["api", "web-*"]).withRoles ["dev", "ops"])) =
        .reachable .names := by
  have outcome : analyze (.ofFilter ((Filter.empty.withNames ["web-1", "db-1"]).withRoles ["dev"]))
      (.ofFilter ((Filter.empty.withNames ["web-*", "api"]).withRoles ["ops", "dev"])) =
      .reachable .names := by decide +kernel
  have sameMatch : ((Filter.empty.withNames ["web-1", "db-1"]).withRoles ["dev"]).Alike
      ((Filter.empty.withNames ["db-1", "web-1", "db-1"]).withRoles ["dev", "dev"]) := {
    roles := by simp [SameValues, Filter.withRoles]
    clusterRoles := .refl _
    subjects := .refl _
    name := rfl
    names := by simp [SameValues, Filter.withNames, Filter.withRoles, or_comm]
    namespaces := .refl _
    kinds := .refl _
    labels := .none
    namespaceLabels := .none
    annotations := rfl
  }
  have sameExclude : ((Filter.empty.withNames ["web-*", "api"]).withRoles ["ops", "dev"]).Alike
      ((Filter.empty.withNames ["api", "web-*"]).withRoles ["dev", "ops"]) := {
    roles := by simp [SameValues, Filter.withRoles, or_comm]
    clusterRoles := .refl _
    subjects := .refl _
    name := rfl
    names := by simp [SameValues, Filter.withNames, Filter.withRoles, or_comm]
    namespaces := .refl _
    kinds := .refl _
    labels := .none
    namespaceLabels := .none
    annotations := rfl
  }
  exact ⟨outcome, analyze_eq_of_alike sameMatch.ofFilter sameExclude.ofFilter ▸ outcome⟩

end Coverage

end AdmissionPolicy
