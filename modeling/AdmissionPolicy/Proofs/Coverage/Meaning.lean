import AdmissionPolicy.Selector.Basic
import AdmissionPolicy.Pattern.Wildcard

/-!
Which requests a selector selects. What a single role, kind or label says about a request is left
open; only names are compared with patterns.
-/

namespace AdmissionPolicy

universe u v

structure LabelMeaning (Request : Type u) where
  label : String → String → Request → Prop
  requirement : LabelRequirement → Request → Prop

structure Meaning (Request : Type u) where
  name : Request → String
  role : String → Request → Prop
  clusterRole : String → Request → Prop
  subject : Subject → Request → Prop
  namespaceName : String → Request → Prop
  kind : String → Request → Prop
  labels : LabelMeaning Request
  namespaceLabels : LabelMeaning Request
  annotations : Dict String → Request → Prop

/-- A list accepts what one of its values accepts. An empty list accepts everything. -/
def AcceptsList {α : Type v} (accepts : α → Prop) (values : List α) : Prop :=
  values = [] ∨ ∃ value ∈ values, accepts value

def AcceptsName (pattern name : String) : Prop :=
  pattern = "" ∨ Pattern.matchesName pattern name = true

def LabelMeaning.Accepts {Request : Type u} (meaning : LabelMeaning Request) (request : Request) :
    Option LabelSelector → Prop
  | none => True
  | some selector =>
      (∀ label ∈ selector.labels.entries, meaning.label label.1 label.2 request) ∧
        ∀ requirement ∈ selector.requirements, meaning.requirement requirement request

namespace Meaning

variable {Request : Type u} (meaning : Meaning Request)

def AcceptsAnnotations (request : Request) : Option (Dict String) → Prop
  | none => True
  | some annotations => meaning.annotations annotations request

structure Accepts (filter : Filter) (request : Request) : Prop where
  roles : AcceptsList (meaning.role · request) filter.requester.roles
  clusterRoles : AcceptsList (meaning.clusterRole · request) filter.requester.clusterRoles
  subjects : AcceptsList (meaning.subject · request) filter.requester.subjects
  name : AcceptsName filter.resources.name (meaning.name request)
  names : AcceptsList (Pattern.matchesName · (meaning.name request) = true) filter.resources.names
  namespaces : AcceptsList (meaning.namespaceName · request) filter.resources.namespaces
  kinds : AcceptsList (meaning.kind · request) filter.resources.kinds
  labels : meaning.labels.Accepts request filter.resources.labels
  namespaceLabels : meaning.namespaceLabels.Accepts request filter.resources.namespaceLabels
  annotations : meaning.AcceptsAnnotations request filter.resources.annotations

/-- A selector with alternatives selects what one of them accepts, and otherwise what its direct
criteria accept. -/
def Selects (selector : Selector) (request : Request) : Prop :=
  if selector.any = [] then meaning.Accepts selector.direct request
  else ∃ entry ∈ selector.any, meaning.Accepts entry request

variable {meaning} {selector : Selector} {request : Request}

theorem selects_of_any_eq_nil (none : selector.any = []) :
    meaning.Selects selector request ↔ meaning.Accepts selector.direct request := by
  rw [Selects, if_pos none]

theorem selects_of_any_ne_nil (some : selector.any ≠ []) :
    meaning.Selects selector request ↔ ∃ entry ∈ selector.any, meaning.Accepts entry request := by
  rw [Selects, if_neg some]

theorem selects_ofFilter_iff {filter : Filter} :
    meaning.Selects (.ofFilter filter) request ↔ meaning.Accepts filter request :=
  selects_of_any_eq_nil rfl

theorem accepts_of_isEmpty {filter : Filter} (empty : filter.isEmpty = true) (request : Request) :
    meaning.Accepts filter request := by
  obtain rfl := Filter.isEmpty_iff.1 empty
  exact {
    roles := .inl rfl
    clusterRoles := .inl rfl
    subjects := .inl rfl
    name := .inl rfl
    names := .inl rfl
    namespaces := .inl rfl
    kinds := .inl rfl
    labels := trivial
    namespaceLabels := trivial
    annotations := trivial
  }

end Meaning

end AdmissionPolicy
