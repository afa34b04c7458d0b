import Mathlib.Algebra.GroupWithZero.Nat
import AdmissionPolicy.Proofs.Rule.Findings

/-!
The kinds that a check finds fault with are those that a rule names, each as often as it is named,
although the check and the list of names go through the filters in different orders.
-/

namespace AdmissionPolicy

/-- Whether a finding forbids one of the kinds that a filter lists. -/
def Finding.isOnKind : Finding → Bool
  | forbidden place _ =>
      match place.steps.reverse with
      | .index _ :: .field "kinds" :: .field "resources" :: _ => true
      | _ => false
  | _ => false

def Scope.countOutside (scope : Scope) (kinds : List String) : Nat :=
  if scope.namespaced then kinds.countP scope.clusterKinds.contains else 0

namespace Scope

variable (scope : Scope)

theorem countOutside_nil : scope.countOutside [] = 0 := by
  simp [countOutside]

theorem countOutside_append (kinds others : List String) :
    scope.countOutside (kinds ++ others) = scope.countOutside kinds + scope.countOutside others := by
  unfold countOutside
  split
  · exact List.countP_append
  · rfl

theorem countOutside_flatMap (filters : List Filter) :
    scope.countOutside (filters.flatMap (·.resources.kinds)) =
      (filters.map fun filter => scope.countOutside filter.resources.kinds).sum := by
  induction filters with
  | nil => exact scope.countOutside_nil
  | cons filter filters ih =>
      rw [List.flatMap_cons, countOutside_append, ih, List.map_cons, List.sum_cons]

end Scope

theorem countP_findingsOfItems {α : Type} {counts : Finding → Bool} {count : α → Nat}
    {items : List α} {place : Location} {check : α → Location → List Finding}
    (each : ∀ item position, (check item (place.index position)).countP counts = count item) :
    (findingsOfItems items place check).countP counts = (items.map count).sum := by
  have counted : items.zipIdx.map (count ∘ Prod.fst) = items.map count := by
    rw [← List.map_map, List.zipIdx_map_fst]
  rw [findingsOfItems, List.countP_flatMap, ← counted]
  refine congrArg List.sum (List.map_congr_left ?_)
  intro entry _
  exact each entry.1 entry.2

theorem countP_eq_zero_of_forall {counts : Finding → Bool} {findings : List Finding}
    (none : ∀ found ∈ findings, counts found = false) : findings.countP counts = 0 := by
  rw [List.countP_eq_zero]
  intro found member
  simp [none found member]

theorem sum_map_eq_countP {α : Type} (holds : α → Bool) (items : List α) :
    (items.map fun item => if holds item then 1 else 0).sum = items.countP holds := by
  induction items with
  | nil => rfl
  | cons item items ih => rw [List.map_cons, List.sum_cons, ih, List.countP_cons, Nat.add_comm]

theorem ResourceCriteria.countP_checkScope (criteria : ResourceCriteria) (place : Location)
    (scope : Scope) :
    (criteria.checkScope (place.child "resources") scope).countP Finding.isOnKind =
      scope.countOutside criteria.kinds := by
  unfold checkScope Scope.countOutside
  by_cases namespaced : scope.namespaced = true
  · have onNamespaces : (findingIf (!criteria.namespaces.isEmpty)
        (.forbidden ((place.child "resources").child "namespaces")
          "namespaces are not allowed in a namespaced policy")).countP Finding.isOnKind = 0 := by
      apply countP_eq_zero_of_forall
      exact forall_findingIf (by simp [Finding.isOnKind, Location.child, Location.extend])
    have onKinds : (findingsOfItems criteria.kinds ((place.child "resources").child "kinds")
        fun kind place => findingIf (scope.clusterKinds.contains kind) (.forbidden place
          s!"cluster-scoped kind {kind} is not allowed in a namespaced policy")).countP
            Finding.isOnKind =
        (criteria.kinds.map fun kind => if scope.clusterKinds.contains kind then 1 else 0).sum := by
      apply countP_findingsOfItems
      intro kind position
      cases scope.clusterKinds.contains kind with
      | false => rfl
      | true => simp [findingIf, Finding.isOnKind, Location.child, Location.index, Location.extend]
    rw [if_neg (by simp [namespaced]), if_pos namespaced, List.countP_append, onNamespaces, onKinds,
      Nat.zero_add, sum_map_eq_countP]
  · simp [namespaced]

theorem Filter.countP_check (filter : Filter) (place : Location) (scope : Scope) :
    (filter.check place scope).countP Finding.isOnKind =
      scope.countOutside filter.resources.kinds := by
  have onField (place : Location) (name detail : String) :
      (Finding.forbidden (place.child name) detail).isOnKind = false := by
    simp [Finding.isOnKind, Location.child, Location.extend]
  have labels (labels : Option LabelSelector) (place : Location) :
      (checkLabels labels place).countP Finding.isOnKind = 0 :=
    countP_eq_zero_of_forall (forall_checkLabels (fun _ _ _ => rfl) onField labels place)
  have naming : (findingIf (!filter.resources.name.isEmpty && !filter.resources.names.isEmpty)
      (.invalid (place.child "resources") filter.resources.name
        "both name and names can not be specified together")).countP Finding.isOnKind = 0 :=
    countP_eq_zero_of_forall (forall_findingIf rfl)
  have subjects : (findingsOfItems filter.requester.subjects (place.child "subjects")
      Subject.check).countP Finding.isOnKind = 0 := by
    apply countP_eq_zero_of_forall
    apply forall_findingsOfItems
    intro subject position
    exact subject.forall_check (fun _ _ _ => rfl) _
  simp only [check, ResourceCriteria.check, List.countP_append, naming, labels, subjects,
    ResourceCriteria.countP_checkScope, Nat.zero_add, Nat.add_zero]

theorem Selector.countP_check (selector : Selector) (place : Location) (scope : Scope) :
    (selector.check place scope).countP Finding.isOnKind = scope.countOutside selector.kinds := by
  have form : (selector.checkForm place).countP Finding.isOnKind = 0 :=
    countP_eq_zero_of_forall (selector.forall_checkForm (fun _ _ _ => rfl) place)
  have entries (filters : List Filter) (place : Location) :
      (findingsOfItems filters place fun filter place => filter.check place scope).countP
          Finding.isOnKind =
        scope.countOutside (filters.flatMap (·.resources.kinds)) := by
    rw [Scope.countOutside_flatMap]
    apply countP_findingsOfItems
    intro filter position
    exact filter.countP_check _ scope
  rw [check, List.countP_append, List.countP_append, List.countP_append, form, entries, entries,
    selector.direct.countP_check, kinds, Scope.countOutside_append, Scope.countOutside_append]
  omega

theorem Rule.countP_check (rule : Rule) (place : Location) (scope : Scope) :
    (rule.check Selector.check place scope).countP Finding.isOnKind =
      scope.countOutside (rule.matchKinds ++ rule.excludeKinds) := by
  have operation : (rule.checkOperation place).countP Finding.isOnKind = 0 :=
    countP_eq_zero_of_forall (rule.forall_checkOperation place rfl rfl)
  have coverage : (rule.checkCoverage place).countP Finding.isOnKind = 0 := by
    rw [checkCoverage_eq]
    split
    · rfl
    · rfl
  rw [check, List.countP_append, List.countP_append, List.countP_append, operation, coverage,
    Selector.countP_check, Selector.countP_check, Scope.countOutside_append, Nat.zero_add]
  rfl

end AdmissionPolicy
