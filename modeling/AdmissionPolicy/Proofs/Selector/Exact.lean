import AdmissionPolicy.Proofs.Selector.Violations
import Mathlib.Data.List.Nodup

/-!
The check of a block reports every violation exactly once: what it finds in different elements
stands at different places.
-/

namespace AdmissionPolicy

namespace Location

/-- The place is the base itself or lies inside it. -/
def Below (base place : Location) : Prop :=
  base.steps <+: place.steps

def UnderFields (base : Location) (names : List String) (place : Location) : Prop :=
  ∃ name ∈ names, (base.child name).Below place

def AtOrUnder (base : Location) (names : List String) (place : Location) : Prop :=
  place = base ∨ base.UnderFields names place

variable {base place : Location}

theorem below_self (place : Location) : place.Below place :=
  List.prefix_rfl

theorem Below.of_extend {step : Step} (below : (base.extend step).Below place) :
    base.Below place :=
  (List.prefix_append base.steps [step]).trans below

theorem Below.ne_base {step : Step} (below : (base.extend step).Below place) : place ≠ base := by
  rintro rfl
  have shorter := below.length_le
  simp only [extend, List.length_append, List.length_singleton] at shorter
  omega

/-- A place lies inside one element of the base only. -/
theorem Below.step_eq {step other : Step} (first : (base.extend step).Below place)
    (second : (base.extend other).Below place) : step = other := by
  have long : (base.extend step).steps.length = (base.extend other).steps.length := by
    simp [extend]
  have same := (List.prefix_of_prefix_length_le first second (Nat.le_of_eq long)).eq_of_length long
  simpa [extend] using same

theorem UnderFields.below {names : List String} (under : base.UnderFields names place) :
    base.Below place := by
  obtain ⟨name, -, below⟩ := under
  exact below.of_extend

theorem AtOrUnder.below {names : List String} (either : base.AtOrUnder names place) :
    base.Below place := by
  rcases either with rfl | under
  · exact place.below_self
  · exact under.below

end Location

/-- Findings about places of one scope, of which none is listed twice. -/
structure ReportedOnce (scope : Location → Prop) (findings : List Finding) : Prop where
  nodup : findings.Nodup
  inScope : ∀ found ∈ findings, scope found.place

namespace ReportedOnce

variable {scope wider : Location → Prop} {findings behind : List Finding} {base : Location}

theorem nil : ReportedOnce scope [] :=
  ⟨.nil, fun _ none => absurd none List.not_mem_nil⟩

theorem findingIf {condition : Bool} {finding : Finding} (inScope : scope finding.place) :
    ReportedOnce scope (findingIf condition finding) := by
  constructor
  · cases condition <;> simp [AdmissionPolicy.findingIf]
  · intro found member
    rw [(mem_findingIf_iff.1 member).2]
    exact inScope

theorem mono (once : ReportedOnce scope findings) (within : ∀ place, scope place → wider place) :
    ReportedOnce wider findings :=
  ⟨once.nodup, fun found member => within found.place (once.inScope found member)⟩

theorem append (once : ReportedOnce scope findings) (later : ReportedOnce scope behind)
    (apart : ∀ found ∈ findings, ∀ other ∈ behind, found ≠ other) :
    ReportedOnce scope (findings ++ behind) :=
  ⟨List.nodup_append.2 ⟨once.nodup, later.nodup, apart⟩,
    List.forall_mem_append.2 ⟨once.inScope, later.inScope⟩⟩

theorem append_if {condition second : Bool} {finding other : Finding}
    (inScope : scope finding.place) (otherInScope : scope other.place)
    (different : finding ≠ other) :
    ReportedOnce scope
      (AdmissionPolicy.findingIf condition finding ++ AdmissionPolicy.findingIf second other) := by
  refine append (findingIf inScope) (findingIf otherInScope) ?_
  intro found member other memberOther
  rw [(mem_findingIf_iff.1 member).2, (mem_findingIf_iff.1 memberOther).2]
  exact different

theorem field (name : String) (once : ReportedOnce (base.child name).Below findings) :
    ReportedOnce (base.UnderFields [name]) findings :=
  once.mono fun _ below => ⟨name, List.mem_singleton_self name, below⟩

theorem below {names : List String} (once : ReportedOnce (base.UnderFields names) findings) :
    ReportedOnce base.Below findings :=
  once.mono fun _ under => under.below

theorem fields {names others : List String} (once : ReportedOnce (base.UnderFields names) findings)
    (later : ReportedOnce (base.UnderFields others) behind)
    (apart : ∀ name ∈ names, name ∉ others) :
    ReportedOnce (base.UnderFields (names ++ others)) (findings ++ behind) := by
  refine append (once.mono ?_) (later.mono ?_) ?_
  · rintro place ⟨name, listed, below⟩
    exact ⟨name, List.mem_append_left others listed, below⟩
  · rintro place ⟨name, listed, below⟩
    exact ⟨name, List.mem_append_right names listed, below⟩
  · rintro found member _ memberOther rfl
    obtain ⟨name, listed, below⟩ := once.inScope found member
    obtain ⟨other, otherListed, otherBelow⟩ := later.inScope found memberOther
    obtain rfl : name = other := by simpa using below.step_eq otherBelow
    exact apart name listed otherListed

theorem itself_and_fields {names : List String} (once : ReportedOnce (· = base) findings)
    (later : ReportedOnce (base.UnderFields names) behind) :
    ReportedOnce (base.AtOrUnder names) (findings ++ behind) := by
  refine append (once.mono fun _ => .inl) (later.mono fun _ => .inr) ?_
  rintro found member _ memberOther rfl
  obtain ⟨name, -, below⟩ := later.inScope found memberOther
  exact below.ne_base (once.inScope found member)

theorem before_fields {names : List String} (once : ReportedOnce (· = base) findings)
    (later : ReportedOnce (base.UnderFields names) behind) :
    ReportedOnce base.Below (findings ++ behind) :=
  (once.itself_and_fields later).mono fun _ either => either.below

theorem behind_field {name : String} {names : List String}
    (once : ReportedOnce (base.child name).Below findings)
    (later : ReportedOnce (base.AtOrUnder names) behind) (other : name ∉ names) :
    ReportedOnce base.Below (findings ++ behind) := by
  refine append (once.mono fun _ below => below.of_extend) (later.mono fun _ either => either.below) ?_
  rintro found member _ memberOther rfl
  have below := once.inScope found member
  rcases later.inScope found memberOther with itself | ⟨inner, listed, innerBelow⟩
  · exact below.ne_base itself
  · obtain rfl : name = inner := by simpa using below.step_eq innerBelow
    exact other listed

theorem numbered {α : Type} {items : List α} {blockOf : Nat → α → List Finding}
    (each : ∀ position item, ReportedOnce (base.index position).Below (blockOf position item)) :
    ReportedOnce base.Below (items.mapIdx blockOf).flatten := by
  rw [List.mapIdx_eq_zipIdx_map, ← List.flatMap_def]
  constructor
  · have positions : items.zipIdx.Pairwise fun first second => first.2 ≠ second.2 := by
      rw [← List.pairwise_map (f := Prod.snd), List.zipIdx_map_snd]
      exact List.nodup_range'
    refine List.nodup_flatMap.2 ⟨fun entry _ => (each entry.2 entry.1).nodup, positions.imp ?_⟩
    intro first second different found inFirst inSecond
    have same := ((each first.2 first.1).inScope found inFirst).step_eq
      ((each second.2 second.1).inScope found inSecond)
    exact different (Location.Step.index.inj same)
  · intro found member
    obtain ⟨entry, -, reported⟩ := List.mem_flatMap.1 member
    exact ((each entry.2 entry.1).inScope found reported).of_extend

theorem items {α : Type} {items : List α} {place : Location}
    {check : α → Location → List Finding}
    (each : ∀ item place, ReportedOnce place.Below (check item place)) :
    ReportedOnce place.Below (findingsOfItems items place check) := by
  have blocks : findingsOfItems items place check =
      (items.mapIdx fun position item => check item (place.index position)).flatten := by
    rw [findingsOfItems, List.mapIdx_eq_zipIdx_map, ← List.flatMap_def]
  rw [blocks]
  exact numbered fun position item => each item (place.index position)

end ReportedOnce

/-! ### The checks -/

theorem LabelRequirement.check_once (requirement : LabelRequirement) (place : Location) :
    ReportedOnce place.Below (requirement.check place) := by
  rw [check, List.append_assoc]
  refine .below (.fields (.field "key" (.findingIf ?_)) (.field "values" (.append_if ?_ ?_ ?_)) ?_)
  · exact Location.below_self _
  · exact Location.below_self _
  · exact Location.below_self _
  · exact Finding.noConfusion
  · decide

theorem checkLabels_once (labels : Option LabelSelector) (place : Location) :
    ReportedOnce place.Below (checkLabels labels place) := by
  cases labels with
  | none => exact .nil
  | some selector => exact .below (.field "matchExpressions" (.items LabelRequirement.check_once))

theorem Subject.check_once (subject : Subject) (place : Location) :
    ReportedOnce place.Below (subject.check place) := by
  refine .below (.fields (.field "kind" (.findingIf ?_)) (.field "name" (.findingIf ?_)) ?_)
  · exact Location.below_self _
  · exact Location.below_self _
  · decide

theorem ResourceCriteria.checkScope_once (criteria : ResourceCriteria) (place : Location)
    (scope : Scope) :
    ReportedOnce (place.UnderFields ["namespaces", "kinds"]) (criteria.checkScope place scope) := by
  unfold checkScope
  split
  · exact .nil
  · refine .fields (.field "namespaces" (.findingIf ?_)) (.field "kinds" (.items ?_)) ?_
    · exact Location.below_self _
    · exact fun _ _ => .findingIf (Location.below_self _)
    · decide

theorem ResourceCriteria.check_once (criteria : ResourceCriteria) (place : Location)
    (scope : Scope) : ReportedOnce place.Below (criteria.check place scope) := by
  rw [check, List.append_assoc, List.append_assoc]
  refine .before_fields (.findingIf rfl) (.fields (criteria.checkScope_once place scope)
    (.fields (.field "selector" ?_) (.field "namespaceSelector" ?_) ?_) ?_)
  · exact checkLabels_once _ _
  · exact checkLabels_once _ _
  · decide
  · decide

theorem Filter.check_once (filter : Filter) (place : Location) (scope : Scope) :
    ReportedOnce (place.UnderFields ["resources", "subjects"]) (filter.check place scope) := by
  refine .fields (.field "resources" ?_) (.field "subjects" ?_) ?_
  · exact filter.resources.check_once _ scope
  · exact .items Subject.check_once
  · decide

theorem Selector.check_once (selector : Selector) (place : Location) (scope : Scope) :
    ReportedOnce place.Below (selector.check place scope) := by
  have entries (filters : List Filter) (name : String) :
      ReportedOnce (place.UnderFields [name])
        (findingsOfItems filters (place.child name) fun filter place => filter.check place scope) :=
    .field name (.items fun filter place => (filter.check_once place scope).below)
  have form : ReportedOnce (· = place) (selector.checkForm place) := by
    refine .append_if rfl rfl ?_
    simp
  rw [check, List.append_assoc, List.append_assoc]
  refine form.before_fields ((selector.direct.check_once place scope).fields
    ((entries selector.any "any").fields (entries selector.all "all") ?_) ?_)
  · decide
  · decide

/-- The check of a block finds every violation once, each at the element at fault, and nothing
else. -/
theorem Selector.check_reports_violations (selector : Selector) (place : Location) (scope : Scope) :
    (selector.check place scope).Nodup ∧
      ∀ finding, finding ∈ selector.check place scope ↔ selector.Violation place scope finding :=
  ⟨(selector.check_once place scope).nodup, fun _ => mem_check_iff⟩

end AdmissionPolicy
