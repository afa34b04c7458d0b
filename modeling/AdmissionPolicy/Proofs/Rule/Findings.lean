import AdmissionPolicy.Check.Rule

/-!
What the findings about a rule can be. A property that holds of every finding of the right shape
holds of all that one part of the check reports.
-/

namespace AdmissionPolicy

variable {P : Finding → Prop}

theorem forall_findingIf {condition : Bool} {finding : Finding} (holds : P finding) :
    ∀ found ∈ findingIf condition finding, P found := by
  cases condition with
  | false => simp [findingIf]
  | true => simpa [findingIf] using holds

theorem forall_findingsOfItems {α : Type} {items : List α} {place : Location}
    {check : α → Location → List Finding}
    (each : ∀ item position, ∀ found ∈ check item (place.index position), P found) :
    ∀ found ∈ findingsOfItems items place check, P found := by
  intro found member
  obtain ⟨⟨item, position⟩, _, inItem⟩ := List.mem_flatMap.1 member
  exact each item position found inItem

theorem Rule.forall_checkOperation (rule : Rule) (place : Location)
    (missing : P (.missingOperation place rule.name))
    (multiple : P (.multipleOperations place rule.name)) :
    ∀ found ∈ rule.checkOperation place, P found := by
  unfold checkOperation
  split
  · simpa using missing
  · simp
  · simpa using multiple

theorem Rule.checkCoverage_eq (rule : Rule) (place : Location) :
    rule.checkCoverage place =
      if rule.coverage = .empty then [.emptySelection place rule.name] else [] := by
  unfold checkCoverage
  split
  · rename_i covered
    rw [if_pos covered]
  · rename_i notCovered
    rw [if_neg notCovered]

section

variable
  (required : ∀ (place : Location) (name detail : String), P (.required (place.child name) detail))
  (forbidden : ∀ (place : Location) (name detail : String), P (.forbidden (place.child name) detail))

include required forbidden in
theorem LabelRequirement.forall_check (requirement : LabelRequirement) (place : Location) :
    ∀ found ∈ requirement.check place, P found := by
  rw [check, List.forall_mem_append, List.forall_mem_append]
  refine ⟨⟨?_, ?_⟩, ?_⟩
  · exact forall_findingIf (required place _ _)
  · exact forall_findingIf (required place _ _)
  · exact forall_findingIf (forbidden place _ _)

include required forbidden in
theorem forall_checkLabels (labels : Option LabelSelector) (place : Location) :
    ∀ found ∈ checkLabels labels place, P found := by
  cases labels with
  | none => simp [checkLabels]
  | some selector =>
      apply forall_findingsOfItems
      intro requirement position
      exact requirement.forall_check required forbidden _

include required in
theorem Subject.forall_check (subject : Subject) (place : Location) :
    ∀ found ∈ subject.check place, P found := by
  rw [check, List.forall_mem_append]
  exact ⟨forall_findingIf (required place _ _), forall_findingIf (required place _ _)⟩

variable (kinds : ∀ (place : Location) (position : Nat) (detail : String),
  P (.forbidden (place.index position) detail))

include forbidden kinds in
theorem ResourceCriteria.forall_checkScope (criteria : ResourceCriteria) (place : Location)
    (scope : Scope) : ∀ found ∈ criteria.checkScope place scope, P found := by
  unfold checkScope
  by_cases namespaced : scope.namespaced = true
  · rw [if_neg (by simp [namespaced]), List.forall_mem_append]
    refine ⟨forall_findingIf (forbidden place _ _), ?_⟩
    apply forall_findingsOfItems
    intro kind position
    exact forall_findingIf (kinds _ position _)
  · simp [namespaced]

variable (invalid : ∀ (place : Location) (value detail : String), P (.invalid place value detail))

include required forbidden kinds invalid in
theorem Filter.forall_check (filter : Filter) (place : Location) (scope : Scope) :
    ∀ found ∈ filter.check place scope, P found := by
  simp only [check, ResourceCriteria.check, List.forall_mem_append]
  refine ⟨⟨⟨⟨?_, ?_⟩, ?_⟩, ?_⟩, ?_⟩
  · exact forall_findingIf (invalid _ _ _)
  · exact filter.resources.forall_checkScope forbidden kinds _ scope
  · exact forall_checkLabels required forbidden _ _
  · exact forall_checkLabels required forbidden _ _
  · apply forall_findingsOfItems
    intro subject position
    exact subject.forall_check required _

include invalid in
theorem Selector.forall_checkForm (selector : Selector) (place : Location) :
    ∀ found ∈ selector.checkForm place, P found := by
  rw [checkForm, List.forall_mem_append]
  exact ⟨forall_findingIf (invalid place _ _), forall_findingIf (invalid place _ _)⟩

include required forbidden kinds invalid in
theorem Selector.forall_check (selector : Selector) (place : Location) (scope : Scope) :
    ∀ found ∈ selector.check place scope, P found := by
  simp only [check, List.forall_mem_append]
  refine ⟨⟨⟨?_, ?_⟩, ?_⟩, ?_⟩
  · exact selector.forall_checkForm invalid place
  · exact selector.direct.forall_check required forbidden kinds invalid place scope
  · apply forall_findingsOfItems
    intro filter position
    exact filter.forall_check required forbidden kinds invalid _ scope
  · apply forall_findingsOfItems
    intro filter position
    exact filter.forall_check required forbidden kinds invalid _ scope

end

end AdmissionPolicy
