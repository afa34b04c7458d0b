import AdmissionPolicy.Proofs.Coverage.Sound
import Mathlib.Data.Fintype.EquivFin

/-!
Blocks that give lists of roles, subjects, namespaces and kinds only. For these the comparison is
exact: a match block that is not proved to be covered selects a request that the exclude block lets
through.
-/

namespace AdmissionPolicy

structure Filter.ListOnly (filter : Filter) : Prop where
  name : filter.resources.name = ""
  names : filter.resources.names = []
  labels : filter.resources.labels = none
  namespaceLabels : filter.resources.namespaceLabels = none
  annotations : filter.resources.annotations = none

structure ListedRequest where
  roles : Set String
  clusterRoles : Set String
  subjects : Set Subject
  namespaceName : String
  kind : String

namespace ListedRequest

/-- Roles and subjects have to be among those of the request, and a namespace or a kind has to be
the one of the request. -/
def meaning : Meaning ListedRequest where
  name _ := ""
  role role request := role ∈ request.roles
  clusterRole role request := role ∈ request.clusterRoles
  subject subject request := subject ∈ request.subjects
  namespaceName name request := name = request.namespaceName
  kind kind request := kind = request.kind
  labels := ⟨fun _ _ _ => False, fun _ _ => False⟩
  namespaceLabels := ⟨fun _ _ _ => False, fun _ _ => False⟩
  annotations _ _ := False

def fitting (filter : Filter) : ListedRequest where
  roles := {role | role ∈ filter.requester.roles}
  clusterRoles := {role | role ∈ filter.requester.clusterRoles}
  subjects := {subject | subject ∈ filter.requester.subjects}
  namespaceName := filter.resources.namespaces.headD ""
  kind := filter.resources.kinds.headD ""

end ListedRequest

/-! ### Single lists -/

theorem acceptsList_mem_self {α : Type} (values : List α) :
    AcceptsList (· ∈ {value | value ∈ values}) values := by
  cases values with
  | nil => exact .inl rfl
  | cons value rest => exact .inr ⟨value, List.mem_cons_self, List.mem_cons_self⟩

theorem acceptsList_headD (values : List String) :
    AcceptsList (· = values.headD "") values := by
  cases values with
  | nil => exact .inl rfl
  | cons value rest => exact .inr ⟨value, List.mem_cons_self, rfl⟩

theorem exists_not_mem_list (values : List String) : ∃ fresh, fresh ∉ values := by
  obtain ⟨fresh, outside⟩ := Infinite.exists_notMem_finset values.toFinset
  exact ⟨fresh, fun member => outside (List.mem_toFinset.2 member)⟩

theorem coversList_of_forall_set {α : Type} [BEq α] [LawfulBEq α] {excluded matched : List α}
    (contained : ∀ values : Set α, AcceptsList (· ∈ values) matched →
      AcceptsList (· ∈ values) excluded) : Coverage.coversList excluded matched = true := by
  rw [Coverage.coversList_eq_true_iff]
  by_cases none : excluded = []
  · exact .inl none
  · refine .inr ⟨?_, ?_⟩
    -- A request without values passes an open match list only.
    · intro empty
      obtain ⟨value, _, wrong⟩ := (contained ∅ (.inl empty)).resolve_left none
      exact wrong
    -- A request with one value passes only the lists that have it.
    · intro value member
      have accepted : AcceptsList (· ∈ ({value} : Set α)) matched := .inr ⟨value, member, rfl⟩
      obtain ⟨other, listed, rfl⟩ := (contained {value} accepted).resolve_left none
      exact listed

theorem coversList_of_forall_value {excluded matched : List String}
    (contained : ∀ value, AcceptsList (· = value) matched → AcceptsList (· = value) excluded) :
    Coverage.coversList excluded matched = true := by
  rw [Coverage.coversList_eq_true_iff]
  by_cases none : excluded = []
  · exact .inl none
  · refine .inr ⟨?_, ?_⟩
    -- A request always has one value, so it takes a fresh one to pass an open match list only.
    · intro empty
      obtain ⟨fresh, outside⟩ := exists_not_mem_list excluded
      obtain ⟨value, listed, rfl⟩ := (contained fresh (.inl empty)).resolve_left none
      exact outside listed
    · intro value member
      obtain ⟨other, listed, rfl⟩ :=
        (contained value (.inr ⟨value, member, rfl⟩)).resolve_left none
      exact listed

/-! ### Whole filters -/

structure Filter.ListsCovered (matched excluded : Filter) : Prop where
  roles : Coverage.coversList excluded.requester.roles matched.requester.roles = true
  clusterRoles :
    Coverage.coversList excluded.requester.clusterRoles matched.requester.clusterRoles = true
  subjects : Coverage.coversList excluded.requester.subjects matched.requester.subjects = true
  namespaces :
    Coverage.coversList excluded.resources.namespaces matched.resources.namespaces = true
  kinds : Coverage.coversList excluded.resources.kinds matched.resources.kinds = true

structure Filter.ListsAccept (filter : Filter) (request : ListedRequest) : Prop where
  roles : AcceptsList (· ∈ request.roles) filter.requester.roles
  clusterRoles : AcceptsList (· ∈ request.clusterRoles) filter.requester.clusterRoles
  subjects : AcceptsList (· ∈ request.subjects) filter.requester.subjects
  namespaces : AcceptsList (· = request.namespaceName) filter.resources.namespaces
  kinds : AcceptsList (· = request.kind) filter.resources.kinds

theorem Filter.ListsAccept.fitting (filter : Filter) :
    filter.ListsAccept (.fitting filter) where
  roles := acceptsList_mem_self _
  clusterRoles := acceptsList_mem_self _
  subjects := acceptsList_mem_self _
  namespaces := acceptsList_headD _
  kinds := acceptsList_headD _

theorem Filter.ListOnly.accepts_iff {filter : Filter} (lists : filter.ListOnly)
    {request : ListedRequest} :
    ListedRequest.meaning.Accepts filter request ↔ filter.ListsAccept request := by
  constructor
  · intro accepted
    exact ⟨accepted.roles, accepted.clusterRoles, accepted.subjects, accepted.namespaces,
      accepted.kinds⟩
  · intro accepted
    exact {
      roles := accepted.roles
      clusterRoles := accepted.clusterRoles
      subjects := accepted.subjects
      name := .inl lists.name
      names := .inl lists.names
      namespaces := accepted.namespaces
      kinds := accepted.kinds
      labels := by simp only [lists.labels, LabelMeaning.Accepts]
      namespaceLabels := by simp only [lists.namespaceLabels, LabelMeaning.Accepts]
      annotations := by simp only [lists.annotations, Meaning.AcceptsAnnotations]
    }

theorem Filter.listsCovered_iff {matched excluded : Filter} :
    matched.ListsCovered excluded ↔
      ∀ request, matched.ListsAccept request → excluded.ListsAccept request := by
  constructor
  · intro covered request accepted
    exact {
      roles := accepted.roles.of_coversList covered.roles
      clusterRoles := accepted.clusterRoles.of_coversList covered.clusterRoles
      subjects := accepted.subjects.of_coversList covered.subjects
      namespaces := accepted.namespaces.of_coversList covered.namespaces
      kinds := accepted.kinds.of_coversList covered.kinds
    }
  · intro contained
    -- One list of a fitting request can be replaced while the other four still fit.
    have fits := ListsAccept.fitting matched
    let request := ListedRequest.fitting matched
    exact {
      roles := coversList_of_forall_set fun roles accepted =>
        (contained { request with roles } { fits with roles := accepted }).roles
      clusterRoles := coversList_of_forall_set fun clusterRoles accepted =>
        (contained { request with clusterRoles }
          { fits with clusterRoles := accepted }).clusterRoles
      subjects := coversList_of_forall_set fun subjects accepted =>
        (contained { request with subjects } { fits with subjects := accepted }).subjects
      namespaces := coversList_of_forall_value fun namespaceName accepted =>
        (contained { request with namespaceName } { fits with namespaces := accepted }).namespaces
      kinds := coversList_of_forall_value fun kind accepted =>
        (contained { request with kind } { fits with kinds := accepted }).kinds
    }

theorem Filter.ListOnly.checks_passed_iff {matched excluded : Filter}
    (matchLists : matched.ListOnly) (excludeLists : excluded.ListOnly) :
    (∀ check ∈ Coverage.checks matched excluded, check.2 = true) ↔
      matched.ListsCovered excluded := by
  rw [Coverage.checks_passed_iff, Coverage.leadingChecks_passed_iff,
    Coverage.closingChecks_passed_iff]
  constructor
  · rintro ⟨⟨roles, clusterRoles, subjects, _⟩, behind, _⟩
    obtain ⟨namespaces, kinds, _⟩ := behind excludeLists.names
    exact ⟨roles, clusterRoles, subjects, namespaces, kinds⟩
  · rintro ⟨roles, clusterRoles, subjects, namespaces, kinds⟩
    refine ⟨⟨roles, clusterRoles, subjects, .inl excludeLists.name⟩,
      fun _ => ⟨namespaces, kinds, ?_, ?_, ?_⟩, fun named => absurd excludeLists.names named⟩
    · rw [excludeLists.labels, matchLists.labels, Coverage.coversLabels]
    · rw [excludeLists.namespaceLabels, matchLists.namespaceLabels, Coverage.coversLabels]
    · rw [excludeLists.annotations, matchLists.annotations]

/-! ### Whole blocks -/

/-- Between blocks of lists the comparison is exact: coverage is proved exactly if no request is
selected by the match block and let through by the exclude block, and whenever a dimension is
reported there is such a request. -/
theorem analyze_listOnly_exact {matched excluded : Filter} (matchLists : matched.ListOnly)
    (excludeLists : excluded.ListOnly) (given : excluded.isEmpty = false) :
    (Coverage.analyze (.ofFilter matched) (.ofFilter excluded) = .empty ↔
      ¬∃ request, ListedRequest.meaning.Selects (.ofFilter matched) request ∧
        ¬ListedRequest.meaning.Selects (.ofFilter excluded) request) ∧
    ∀ dimension, Coverage.analyze (.ofFilter matched) (.ofFilter excluded) = .reachable dimension →
      ∃ request, ListedRequest.meaning.Selects (.ofFilter matched) request ∧
        ¬ListedRequest.meaning.Selects (.ofFilter excluded) request := by
  have notEmpty : excluded ≠ .empty := by
    intro empty
    rw [Filter.isEmpty_iff.2 empty] at given
    cases given
  have exact : Coverage.analyze (.ofFilter matched) (.ofFilter excluded) = .empty ↔
      ¬∃ request, ListedRequest.meaning.Selects (.ofFilter matched) request ∧
        ¬ListedRequest.meaning.Selects (.ofFilter excluded) request := by
    rw [Coverage.analyze_ofFilter_eq_empty_iff, and_iff_right notEmpty,
      matchLists.checks_passed_iff excludeLists, Filter.listsCovered_iff]
    simp only [Meaning.selects_ofFilter_iff, matchLists.accepts_iff, excludeLists.accepts_iff,
      not_exists, not_and, not_not]
  refine ⟨exact, fun dimension reachable => ?_⟩
  by_contra unreached
  rw [exact.2 unreached] at reachable
  cases reachable

theorem analyze_listOnly_exact_services :
    Coverage.analyze
        (.ofFilter ((Filter.empty.withRoles ["dev"]).withKinds ["Pod", "Service"]))
        (.ofFilter ((Filter.empty.withRoles ["dev", "ops"]).withKinds ["Pod"])) =
        .reachable .kinds ∧
      ∃ request,
        ListedRequest.meaning.Selects
          (.ofFilter ((Filter.empty.withRoles ["dev"]).withKinds ["Pod", "Service"])) request ∧
        ¬ListedRequest.meaning.Selects
          (.ofFilter ((Filter.empty.withRoles ["dev", "ops"]).withKinds ["Pod"])) request := by
  have reachable : Coverage.analyze
      (.ofFilter ((Filter.empty.withRoles ["dev"]).withKinds ["Pod", "Service"]))
      (.ofFilter ((Filter.empty.withRoles ["dev", "ops"]).withKinds ["Pod"])) =
      .reachable .kinds := by decide
  have matchLists : ((Filter.empty.withRoles ["dev"]).withKinds ["Pod", "Service"]).ListOnly :=
    ⟨rfl, rfl, rfl, rfl, rfl⟩
  have excludeLists : ((Filter.empty.withRoles ["dev", "ops"]).withKinds ["Pod"]).ListOnly :=
    ⟨rfl, rfl, rfl, rfl, rfl⟩
  have exact := analyze_listOnly_exact matchLists excludeLists (by decide)
  exact ⟨reachable, exact.2 .kinds reachable⟩

end AdmissionPolicy
