import AdmissionPolicy.Check.Selector

/-!
Well-formed blocks, stated without their check. The main statement is that the check of a block finds
nothing exactly if the block is well-formed.
-/

namespace AdmissionPolicy

/-- Values are given exactly for the operators that compare with them. -/
structure LabelRequirement.WellFormed (requirement : LabelRequirement) : Prop where
  key : requirement.key ≠ ""
  values : requirement.values ≠ [] ↔
    requirement.operator = .oneOf ∨ requirement.operator = .noneOf

structure Subject.WellFormed (subject : Subject) : Prop where
  kind : subject.kind ≠ ""
  name : subject.name ≠ ""

/-- In a namespace, neither namespaces nor kinds outside of namespaces can be named. -/
structure ResourceCriteria.InScope (criteria : ResourceCriteria) (scope : Scope) : Prop where
  namespaces : criteria.namespaces = []
  kinds : ∀ kind ∈ criteria.kinds, kind ∉ scope.clusterKinds.keys

structure Filter.WellFormed (filter : Filter) (scope : Scope) : Prop where
  oneNaming : ¬(filter.resources.name ≠ "" ∧ filter.resources.names ≠ [])
  inScope : scope.namespaced = true → filter.resources.InScope scope
  labels : ∀ selector, filter.resources.labels = some selector →
    ∀ requirement ∈ selector.requirements, requirement.WellFormed
  namespaceLabels : ∀ selector, filter.resources.namespaceLabels = some selector →
    ∀ requirement ∈ selector.requirements, requirement.WellFormed
  subjects : ∀ subject ∈ filter.requester.subjects, subject.WellFormed

structure Selector.OneForm (selector : Selector) : Prop where
  lists : ¬(selector.any ≠ [] ∧ selector.all ≠ [])
  direct : (selector.any ≠ [] ∨ selector.all ≠ []) → selector.direct = .empty

structure Selector.WellFormed (selector : Selector) (scope : Scope) : Prop where
  oneForm : selector.OneForm
  direct : selector.direct.WellFormed scope
  any : ∀ filter ∈ selector.any, filter.WellFormed scope
  all : ∀ filter ∈ selector.all, filter.WellFormed scope

theorem findingIf_eq_nil_iff {condition : Bool} {finding : Finding} :
    findingIf condition finding = [] ↔ condition = false := by
  cases condition <;> simp [findingIf]

theorem findingsOfItems_eq_nil_iff {α : Type} {items : List α} {place : Location}
    {check : α → Location → List Finding} {WellFormed : α → Prop}
    (checked : ∀ item place, check item place = [] ↔ WellFormed item) :
    findingsOfItems items place check = [] ↔ ∀ item ∈ items, WellFormed item := by
  simp only [findingsOfItems, List.flatMap_eq_nil_iff, checked]
  constructor
  · intro found item member
    obtain ⟨position, bound, rfl⟩ := List.getElem_of_mem member
    exact found (items[position], position) (List.mem_zipIdx_iff_getElem?.2 (by simp [bound]))
  · rintro found ⟨item, position⟩ member
    exact found item (List.fst_mem_of_mem_zipIdx member)

theorem LabelRequirement.check_eq_nil_iff (requirement : LabelRequirement) (place : Location) :
    requirement.check place = [] ↔ requirement.WellFormed := by
  have valuesChecked :
      ((requirement.operator.takesValues && !!requirement.values.isEmpty) = false ∧
        (!requirement.operator.takesValues && !requirement.values.isEmpty) = false) ↔
      (requirement.values ≠ [] ↔
        requirement.operator = .oneOf ∨ requirement.operator = .noneOf) := by
    rw [← LabelOperator.takesValues_iff]
    cases requirement.operator.takesValues <;> cases requirement.values <;> simp
  simp only [LabelRequirement.check, List.append_eq_nil_iff, findingIf_eq_nil_iff, and_assoc,
    valuesChecked]
  constructor
  · rintro ⟨key, values⟩
    exact ⟨by simpa using key, values⟩
  · rintro ⟨key, values⟩
    exact ⟨by simpa using key, values⟩

theorem Subject.check_eq_nil_iff (subject : Subject) (place : Location) :
    subject.check place = [] ↔ subject.WellFormed := by
  simp only [Subject.check, List.append_eq_nil_iff, findingIf_eq_nil_iff]
  constructor
  · rintro ⟨kind, name⟩
    exact ⟨by simpa using kind, by simpa using name⟩
  · rintro ⟨kind, name⟩
    exact ⟨by simpa using kind, by simpa using name⟩

theorem ResourceCriteria.checkScope_eq_nil_iff (criteria : ResourceCriteria) (place : Location)
    (scope : Scope) :
    criteria.checkScope place scope = [] ↔
      (scope.namespaced = true → criteria.InScope scope) := by
  unfold ResourceCriteria.checkScope
  by_cases namespaced : scope.namespaced = true
  · have kindsChecked : findingsOfItems criteria.kinds (place.child "kinds") (fun kind place =>
        findingIf (scope.clusterKinds.contains kind) (.forbidden place
          s!"cluster-scoped kind {kind} is not allowed in a namespaced policy")) = [] ↔
        ∀ kind ∈ criteria.kinds, kind ∉ scope.clusterKinds.keys := by
      apply findingsOfItems_eq_nil_iff
      intro kind place
      rw [findingIf_eq_nil_iff, ← Bool.not_eq_true, Dict.contains_iff_mem_keys]
    rw [if_neg (by simp [namespaced]), List.append_eq_nil_iff, findingIf_eq_nil_iff, kindsChecked]
    constructor
    · rintro ⟨namespaces, kinds⟩ _
      exact ⟨by simpa using namespaces, kinds⟩
    · intro inScope
      obtain ⟨namespaces, kinds⟩ := inScope namespaced
      exact ⟨by simpa using namespaces, kinds⟩
  · simp [namespaced]

theorem checkLabels_eq_nil_iff (labels : Option LabelSelector) (place : Location) :
    checkLabels labels place = [] ↔
      ∀ selector, labels = some selector →
        ∀ requirement ∈ selector.requirements, requirement.WellFormed := by
  cases labels with
  | none => simp [checkLabels]
  | some selector =>
      simp only [checkLabels, LabelSelector.check, Option.some.injEq, forall_eq']
      exact findingsOfItems_eq_nil_iff LabelRequirement.check_eq_nil_iff

theorem Filter.check_eq_nil_iff (filter : Filter) (place : Location) (scope : Scope) :
    filter.check place scope = [] ↔ filter.WellFormed scope := by
  simp only [Filter.check, ResourceCriteria.check, List.append_eq_nil_iff, findingIf_eq_nil_iff,
    ResourceCriteria.checkScope_eq_nil_iff, checkLabels_eq_nil_iff,
    findingsOfItems_eq_nil_iff Subject.check_eq_nil_iff]
  constructor
  · rintro ⟨⟨⟨⟨naming, inScope⟩, labels⟩, namespaceLabels⟩, subjects⟩
    exact ⟨by simpa using naming, inScope, labels, namespaceLabels, subjects⟩
  · rintro ⟨naming, inScope, labels, namespaceLabels, subjects⟩
    exact ⟨⟨⟨⟨by simpa using naming, inScope⟩, labels⟩, namespaceLabels⟩, subjects⟩

theorem Selector.checkForm_eq_nil_iff (selector : Selector) (place : Location) :
    selector.checkForm place = [] ↔ selector.OneForm := by
  have directChecked :
      ((!selector.any.isEmpty || !selector.all.isEmpty) && !selector.direct.isEmpty) = false ↔
      ((selector.any ≠ [] ∨ selector.all ≠ []) → selector.direct = .empty) := by
    rw [← Filter.isEmpty_iff]
    cases selector.direct.isEmpty <;> simp
  simp only [Selector.checkForm, List.append_eq_nil_iff, findingIf_eq_nil_iff, directChecked]
  constructor
  · rintro ⟨lists, direct⟩
    exact ⟨by simpa using lists, direct⟩
  · rintro ⟨lists, direct⟩
    exact ⟨by simpa using lists, direct⟩

instance (selector : Selector) : Decidable selector.OneForm :=
  decidable_of_iff _ (selector.checkForm_eq_nil_iff .root)

theorem Selector.check_eq_nil_iff (selector : Selector) (place : Location) (scope : Scope) :
    selector.check place scope = [] ↔ selector.WellFormed scope := by
  have filtersChecked (filters : List Filter) (place : Location) :
      findingsOfItems filters place (fun filter place => filter.check place scope) = [] ↔
        ∀ filter ∈ filters, filter.WellFormed scope :=
    findingsOfItems_eq_nil_iff fun filter place => Filter.check_eq_nil_iff filter place scope
  simp only [Selector.check, List.append_eq_nil_iff, Selector.checkForm_eq_nil_iff,
    Filter.check_eq_nil_iff, filtersChecked]
  constructor
  · rintro ⟨⟨⟨oneForm, direct⟩, any⟩, all⟩
    exact ⟨oneForm, direct, any, all⟩
  · rintro ⟨oneForm, direct, any, all⟩
    exact ⟨⟨⟨oneForm, direct⟩, any⟩, all⟩

end AdmissionPolicy
