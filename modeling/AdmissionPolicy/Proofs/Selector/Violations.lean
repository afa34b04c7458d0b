import AdmissionPolicy.Check.Selector

/-!
What can be wrong with a block, and where. Each violation is stated on its own, at the place of the
element at fault; the check of a block finds these and nothing else.
-/

namespace AdmissionPolicy

/-- Values have to be given exactly for the operators that compare with them. -/
inductive LabelRequirement.Violation (requirement : LabelRequirement) (place : Location) :
    Finding → Prop
  | noKey : requirement.key = "" →
      requirement.Violation place (.required (place.child "key") "label key is required")
  | noValues : requirement.operator = .oneOf ∨ requirement.operator = .noneOf →
      requirement.values = [] →
      requirement.Violation place (.required (place.child "values")
        ("values must be non-empty for operator " ++ requirement.operator.name))
  | values : requirement.operator = .present ∨ requirement.operator = .absent →
      requirement.values ≠ [] →
      requirement.Violation place (.forbidden (place.child "values")
        ("values must be empty for operator " ++ requirement.operator.name))

inductive LabelsViolation (labels : Option LabelSelector) (place : Location) : Finding → Prop
  | requirement {selector : LabelSelector} {requirement : LabelRequirement} {position : Nat}
      {finding : Finding} : labels = some selector →
      selector.requirements[position]? = some requirement →
      requirement.Violation ((place.child "matchExpressions").index position) finding →
      LabelsViolation labels place finding

inductive Subject.Violation (subject : Subject) (place : Location) : Finding → Prop
  | noKind : subject.kind = "" →
      subject.Violation place (.required (place.child "kind") "subject kind is required")
  | noName : subject.name = "" →
      subject.Violation place (.required (place.child "name") "subject name is required")

/-- What can be wrong with the criteria on a resource. In a namespace, neither namespaces nor kinds
outside of namespaces can be named. -/
inductive ResourceCriteria.Violation (criteria : ResourceCriteria) (place : Location)
    (scope : Scope) : Finding → Prop
  | bothNames : criteria.name ≠ "" → criteria.names ≠ [] →
      criteria.Violation place scope
        (.invalid place criteria.name "both name and names can not be specified together")
  | namespaces : scope.namespaced = true → criteria.namespaces ≠ [] →
      criteria.Violation place scope (.forbidden (place.child "namespaces")
        "namespaces are not allowed in a namespaced policy")
  | kind {kind : String} {position : Nat} : scope.namespaced = true →
      criteria.kinds[position]? = some kind → kind ∈ scope.clusterKinds.keys →
      criteria.Violation place scope (.forbidden ((place.child "kinds").index position)
        s!"cluster-scoped kind {kind} is not allowed in a namespaced policy")
  | labels {finding : Finding} :
      LabelsViolation criteria.labels (place.child "selector") finding →
      criteria.Violation place scope finding
  | namespaceLabels {finding : Finding} :
      LabelsViolation criteria.namespaceLabels (place.child "namespaceSelector") finding →
      criteria.Violation place scope finding

inductive Filter.Violation (filter : Filter) (place : Location) (scope : Scope) : Finding → Prop
  | resources {finding : Finding} :
      filter.resources.Violation (place.child "resources") scope finding →
      filter.Violation place scope finding
  | subject {subject : Subject} {position : Nat} {finding : Finding} :
      filter.requester.subjects[position]? = some subject →
      subject.Violation ((place.child "subjects").index position) finding →
      filter.Violation place scope finding

/-- The filters of a block that stands at a place, each with the place where it stands itself. -/
inductive Selector.FilterAt (selector : Selector) (place : Location) : Filter → Location → Prop
  | direct : selector.FilterAt place selector.direct place
  | any {filter : Filter} {position : Nat} : selector.any[position]? = some filter →
      selector.FilterAt place filter ((place.child "any").index position)
  | all {filter : Filter} {position : Nat} : selector.all[position]? = some filter →
      selector.FilterAt place filter ((place.child "all").index position)

inductive Selector.Violation (selector : Selector) (place : Location) (scope : Scope) :
    Finding → Prop
  | bothLists : selector.any ≠ [] → selector.all ≠ [] →
      selector.Violation place scope
        (.invalid place "any/all" "can't specify any and all together")
  | besideLists : selector.any ≠ [] ∨ selector.all ≠ [] → selector.direct.isEmpty = false →
      selector.Violation place scope (.invalid place "resources/user info"
        "can't specify any/all together with direct resource or user info")
  | filter {filter : Filter} {inner : Location} {finding : Finding} :
      selector.FilterAt place filter inner → filter.Violation inner scope finding →
      selector.Violation place scope finding

/-! ### What a check finds -/

variable {found : Finding}

theorem mem_findingIf_iff {condition : Bool} {finding : Finding} :
    found ∈ findingIf condition finding ↔ condition = true ∧ found = finding := by
  cases condition <;> simp [findingIf]

theorem mem_findingsOfItems_iff {α : Type} {items : List α} {place : Location}
    {check : α → Location → List Finding} :
    found ∈ findingsOfItems items place check ↔
      ∃ position item, items[position]? = some item ∧
        found ∈ check item (place.index position) := by
  simp only [findingsOfItems, List.mem_flatMap]
  constructor
  · rintro ⟨⟨item, position⟩, listed, reported⟩
    exact ⟨position, item, List.mk_mem_zipIdx_iff_getElem?.1 listed, reported⟩
  · rintro ⟨position, item, listed, reported⟩
    exact ⟨(item, position), List.mk_mem_zipIdx_iff_getElem?.2 listed, reported⟩

theorem LabelOperator.takesValues_eq_false_iff {operator : LabelOperator} :
    operator.takesValues = false ↔ operator = present ∨ operator = absent := by
  cases operator <;> simp [takesValues]

theorem LabelRequirement.mem_check_iff {requirement : LabelRequirement} {place : Location} :
    found ∈ requirement.check place ↔ requirement.Violation place found := by
  simp only [check, List.mem_append, mem_findingIf_iff, String.isEmpty_iff, Bool.and_eq_true,
    Bool.not_not, Bool.not_eq_true', List.isEmpty_iff, LabelOperator.takesValues_iff,
    LabelOperator.takesValues_eq_false_iff]
  constructor
  · rintro ((⟨noKey, rfl⟩ | ⟨⟨takes, none⟩, rfl⟩) | ⟨⟨takesNone, given⟩, rfl⟩)
    · exact .noKey noKey
    · exact .noValues takes none
    · exact .values takesNone (by simpa using given)
  · rintro (noKey | ⟨takes, none⟩ | ⟨takesNone, given⟩)
    · exact .inl (.inl ⟨noKey, rfl⟩)
    · exact .inl (.inr ⟨⟨takes, none⟩, rfl⟩)
    · exact .inr ⟨⟨takesNone, by simpa using given⟩, rfl⟩

theorem mem_checkLabels_iff {labels : Option LabelSelector} {place : Location} :
    found ∈ checkLabels labels place ↔ LabelsViolation labels place found := by
  constructor
  · intro reported
    cases labels with
    | none => cases reported
    | some selector =>
        obtain ⟨position, requirement, listed, broken⟩ := mem_findingsOfItems_iff.1 reported
        exact .requirement rfl listed (LabelRequirement.mem_check_iff.1 broken)
  · rintro ⟨rfl, listed, broken⟩
    exact mem_findingsOfItems_iff.2 ⟨_, _, listed, LabelRequirement.mem_check_iff.2 broken⟩

theorem Subject.mem_check_iff {subject : Subject} {place : Location} :
    found ∈ subject.check place ↔ subject.Violation place found := by
  simp only [check, List.mem_append, mem_findingIf_iff, String.isEmpty_iff]
  constructor
  · rintro (⟨noKind, rfl⟩ | ⟨noName, rfl⟩)
    · exact .noKind noKind
    · exact .noName noName
  · rintro (noKind | noName)
    · exact .inl ⟨noKind, rfl⟩
    · exact .inr ⟨noName, rfl⟩

theorem ResourceCriteria.mem_checkScope_iff {criteria : ResourceCriteria} {place : Location}
    {scope : Scope} :
    found ∈ criteria.checkScope place scope ↔ scope.namespaced = true ∧
      ((criteria.namespaces ≠ [] ∧ found = .forbidden (place.child "namespaces")
          "namespaces are not allowed in a namespaced policy") ∨
        ∃ position kind, criteria.kinds[position]? = some kind ∧
          kind ∈ scope.clusterKinds.keys ∧
          found = .forbidden ((place.child "kinds").index position)
            s!"cluster-scoped kind {kind} is not allowed in a namespaced policy") := by
  unfold checkScope
  cases scope.namespaced with
  | false => simp
  | true =>
      simp only [Bool.not_true, Bool.false_eq_true, if_false, List.mem_append, mem_findingIf_iff,
        mem_findingsOfItems_iff, Dict.contains_iff_mem_keys, true_and]
      simp

theorem ResourceCriteria.mem_check_iff {criteria : ResourceCriteria} {place : Location}
    {scope : Scope} :
    found ∈ criteria.check place scope ↔ criteria.Violation place scope found := by
  simp only [check, List.mem_append, mem_findingIf_iff, mem_checkScope_iff, mem_checkLabels_iff]
  constructor
  · rintro (((⟨named, rfl⟩ | ⟨namespaced, ⟨given, rfl⟩ | ⟨position, kind, listed, outside, rfl⟩⟩) |
      labels) | namespaceLabels)
    · obtain ⟨name, names⟩ : criteria.name ≠ "" ∧ criteria.names ≠ [] := by simpa using named
      exact .bothNames name names
    · exact .namespaces namespaced given
    · exact .kind namespaced listed outside
    · exact .labels labels
    · exact .namespaceLabels namespaceLabels
  · rintro (⟨name, names⟩ | ⟨namespaced, given⟩ | ⟨namespaced, listed, outside⟩ | labels |
      namespaceLabels)
    · exact .inl (.inl (.inl ⟨by simp [name, names], rfl⟩))
    · exact .inl (.inl (.inr ⟨namespaced, .inl ⟨given, rfl⟩⟩))
    · exact .inl (.inl (.inr ⟨namespaced, .inr ⟨_, _, listed, outside, rfl⟩⟩))
    · exact .inl (.inr labels)
    · exact .inr namespaceLabels

theorem Filter.mem_check_iff {filter : Filter} {place : Location} {scope : Scope} :
    found ∈ filter.check place scope ↔ filter.Violation place scope found := by
  simp only [check, List.mem_append, ResourceCriteria.mem_check_iff, mem_findingsOfItems_iff,
    Subject.mem_check_iff]
  constructor
  · rintro (resources | ⟨position, subject, listed, broken⟩)
    · exact .resources resources
    · exact .subject listed broken
  · rintro (resources | ⟨listed, broken⟩)
    · exact .inl resources
    · exact .inr ⟨_, _, listed, broken⟩

theorem Selector.mem_checkForm_iff {selector : Selector} {place : Location} :
    found ∈ selector.checkForm place ↔
      ((selector.any ≠ [] ∧ selector.all ≠ []) ∧
          found = .invalid place "any/all" "can't specify any and all together") ∨
        ((selector.any ≠ [] ∨ selector.all ≠ []) ∧ selector.direct.isEmpty = false) ∧
          found = .invalid place "resources/user info"
            "can't specify any/all together with direct resource or user info" := by
  simp [checkForm, mem_findingIf_iff]

theorem Selector.mem_check_iff {selector : Selector} {place : Location} {scope : Scope} :
    found ∈ selector.check place scope ↔ selector.Violation place scope found := by
  simp only [check, List.mem_append, mem_checkForm_iff, Filter.mem_check_iff,
    mem_findingsOfItems_iff]
  constructor
  · rintro ((((⟨⟨any, all⟩, rfl⟩ | ⟨⟨lists, given⟩, rfl⟩) | direct) |
      ⟨position, filter, listed, broken⟩) | ⟨position, filter, listed, broken⟩)
    · exact .bothLists any all
    · exact .besideLists lists given
    · exact .filter .direct direct
    · exact .filter (.any listed) broken
    · exact .filter (.all listed) broken
  · rintro (⟨any, all⟩ | ⟨lists, given⟩ | ⟨placed, broken⟩)
    · exact .inl (.inl (.inl (.inl ⟨⟨any, all⟩, rfl⟩)))
    · exact .inl (.inl (.inl (.inr ⟨⟨lists, given⟩, rfl⟩)))
    · cases placed with
      | direct => exact .inl (.inl (.inr broken))
      | any listed => exact .inl (.inr ⟨_, _, listed, broken⟩)
      | all listed => exact .inr ⟨_, _, listed, broken⟩

end AdmissionPolicy
