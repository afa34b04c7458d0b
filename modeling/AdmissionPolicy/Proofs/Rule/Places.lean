import AdmissionPolicy.Check.Rule
import AdmissionPolicy.Proofs.Selector.Exact

/-!
The places of what a check finds. A check at a place inside another one finds what it finds at the
inner place alone, with the outer place in front of the place of every finding. All that the check
of a rule finds lies at the rule or inside it, and none of it is found twice.
-/

namespace AdmissionPolicy

namespace Location

theorem append_root (outer : Location) : outer ++ root = outer := by
  change Location.mk (outer.steps ++ []) = outer
  rw [List.append_nil]

theorem append_extend (outer place : Location) (step : Step) :
    (outer ++ place).extend step = outer ++ place.extend step := by
  change Location.mk (outer.steps ++ place.steps ++ [step]) = _
  rw [List.append_assoc]
  rfl

theorem append_child (outer place : Location) (name : String) :
    (outer ++ place).child name = outer ++ place.child name :=
  append_extend outer place _

theorem append_index (outer place : Location) (position : Nat) :
    (outer ++ place).index position = outer ++ place.index position :=
  append_extend outer place _

end Location

namespace Finding

def mapPlace (change : Location → Location) : Finding → Finding
  | missingOperation place rule => missingOperation (change place) rule
  | multipleOperations place rule => multipleOperations (change place) rule
  | emptySelection place rule => emptySelection (change place) rule
  | invalid place value detail => invalid (change place) value detail
  | forbidden place detail => forbidden (change place) detail
  | required place detail => required (change place) detail
  | duplicate place value => duplicate (change place) value
  | emptyPolicy place => emptyPolicy (change place)

def within (outer : Location) : Finding → Finding :=
  mapPlace (outer ++ ·)

theorem mapPlace_mapPlace (change further : Location → Location) (finding : Finding) :
    (finding.mapPlace further).mapPlace change = finding.mapPlace (change ∘ further) := by
  cases finding <;> rfl

end Finding

theorem map_findingIf (change : Finding → Finding) (condition : Bool) (finding : Finding) :
    (findingIf condition finding).map change = findingIf condition (change finding) := by
  cases condition <;> rfl

theorem findingsOfItems_within {α : Type} {outer : Location} {items : List α} {place : Location}
    {check : α → Location → List Finding}
    (each : ∀ item place, check item (outer ++ place) =
      (check item place).map (Finding.within outer)) :
    findingsOfItems items (outer ++ place) check =
      (findingsOfItems items place check).map (Finding.within outer) := by
  simp only [findingsOfItems, List.map_flatMap, Location.append_index, each]

section

variable (outer : Location)

theorem LabelRequirement.check_within (requirement : LabelRequirement) (place : Location) :
    requirement.check (outer ++ place) =
      (requirement.check place).map (Finding.within outer) := by
  simp only [check, List.map_append, map_findingIf, Location.append_child]
  rfl

theorem checkLabels_within (labels : Option LabelSelector) (place : Location) :
    checkLabels labels (outer ++ place) =
      (checkLabels labels place).map (Finding.within outer) := by
  cases labels with
  | none => rfl
  | some selector =>
      simp only [checkLabels, LabelSelector.check, Location.append_child]
      exact findingsOfItems_within (LabelRequirement.check_within outer)

theorem Subject.check_within (subject : Subject) (place : Location) :
    subject.check (outer ++ place) = (subject.check place).map (Finding.within outer) := by
  simp only [check, List.map_append, map_findingIf, Location.append_child]
  rfl

theorem ResourceCriteria.checkScope_within (criteria : ResourceCriteria) (place : Location)
    (scope : Scope) :
    criteria.checkScope (outer ++ place) scope =
      (criteria.checkScope place scope).map (Finding.within outer) := by
  unfold checkScope
  cases scope.namespaced with
  | false => rfl
  | true =>
      simp only [Bool.not_true, Bool.false_eq_true, if_false, List.map_append, map_findingIf,
        Location.append_child]
      congr 1
      apply findingsOfItems_within
      intro kind place
      rw [map_findingIf]
      rfl

theorem ResourceCriteria.check_within (criteria : ResourceCriteria) (place : Location)
    (scope : Scope) :
    criteria.check (outer ++ place) scope =
      (criteria.check place scope).map (Finding.within outer) := by
  simp only [check, List.map_append, map_findingIf, Location.append_child, checkScope_within,
    checkLabels_within]
  rfl

theorem Filter.check_within (filter : Filter) (place : Location) (scope : Scope) :
    filter.check (outer ++ place) scope =
      (filter.check place scope).map (Finding.within outer) := by
  simp only [check, List.map_append, Location.append_child, ResourceCriteria.check_within,
    findingsOfItems_within (Subject.check_within outer)]

theorem Selector.checkForm_within (selector : Selector) (place : Location) :
    selector.checkForm (outer ++ place) =
      (selector.checkForm place).map (Finding.within outer) := by
  simp only [checkForm, List.map_append, map_findingIf]
  rfl

theorem Selector.check_within (selector : Selector) (place : Location) (scope : Scope) :
    check selector (outer ++ place) scope =
      (check selector place scope).map (Finding.within outer) := by
  have entries (filters : List Filter) (place : Location) :
      findingsOfItems filters (outer ++ place) (fun filter place => filter.check place scope) =
        (findingsOfItems filters place fun filter place => filter.check place scope).map
          (Finding.within outer) :=
    findingsOfItems_within fun filter place => filter.check_within outer place scope
  simp only [check, List.map_append, Location.append_child, checkForm_within,
    Filter.check_within, entries]

theorem Rule.checkOperation_within (rule : Rule) (place : Location) :
    rule.checkOperation (outer ++ place) =
      (rule.checkOperation place).map (Finding.within outer) := by
  unfold checkOperation
  split <;> rfl

theorem Rule.checkCoverage_within (rule : Rule) (place : Location) :
    rule.checkCoverage (outer ++ place) =
      (rule.checkCoverage place).map (Finding.within outer) := by
  unfold checkCoverage
  split <;> rfl

theorem Rule.check_within (rule : Rule) (place : Location) (scope : Scope) :
    rule.check Selector.check (outer ++ place) scope =
      (rule.check Selector.check place scope).map (Finding.within outer) := by
  simp only [check, List.map_append, Location.append_child, checkOperation_within,
    checkCoverage_within, Selector.check_within]

end

/-! ### Findings of one rule -/

namespace Rule

variable (rule : Rule) (place : Location)

theorem checkOperation_once : ReportedOnce (· = place) (rule.checkOperation place) := by
  unfold checkOperation
  split
  · exact ⟨List.nodup_singleton _, by simp [Finding.place]⟩
  · exact .nil
  · exact ⟨List.nodup_singleton _, by simp [Finding.place]⟩

theorem checkCoverage_once : ReportedOnce (· = place) (rule.checkCoverage place) := by
  unfold checkCoverage
  split
  · exact ⟨List.nodup_singleton _, by simp [Finding.place]⟩
  · exact .nil

theorem checkOperation_ne_checkCoverage :
    ∀ found ∈ rule.checkOperation place, ∀ other ∈ rule.checkCoverage place, found ≠ other := by
  unfold checkOperation checkCoverage
  split <;> split <;> simp

theorem check_once (scope : Scope) :
    ReportedOnce (place.AtOrUnder ["match", "exclude"])
      (rule.check Selector.check place scope) := by
  have itself : ReportedOnce (· = place) (rule.checkOperation place ++ rule.checkCoverage place) :=
    (rule.checkOperation_once place).append (rule.checkCoverage_once place)
      (rule.checkOperation_ne_checkCoverage place)
  have blocks : ReportedOnce (place.UnderFields ["match", "exclude"])
      (rule.matching.check (place.child "match") scope
        ++ rule.excluding.check (place.child "exclude") scope) := by
    refine .fields (.field "match" ?_) (.field "exclude" ?_) (by decide)
    · exact rule.matching.check_once _ scope
    · exact rule.excluding.check_once _ scope
  rw [check, List.append_assoc]
  exact itself.itself_and_fields blocks

end Rule

end AdmissionPolicy
