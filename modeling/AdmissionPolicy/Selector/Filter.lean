import AdmissionPolicy.Selector.Label
import AdmissionPolicy.Selector.Requester

/-!
Criteria on one request: on the resource it is about and on who makes it. Every dimension that is
given has to accept the request, and a dimension that is not given accepts every request.
-/

namespace AdmissionPolicy

/-- Criteria on a resource. `name` and `names` are patterns; `name` is the older form for one. -/
structure ResourceCriteria where
  kinds : List String
  name : String
  names : List String
  namespaces : List String
  annotations : Option (Dict String)
  labels : Option LabelSelector
  namespaceLabels : Option LabelSelector
  deriving DecidableEq

namespace ResourceCriteria

def empty : ResourceCriteria := ⟨[], "", [], [], none, none, none⟩

instance : Inhabited ResourceCriteria := ⟨empty⟩

/-- Whether nothing is given. Annotations or label predicates that are given count even if they are
themselves empty. -/
def isEmpty (criteria : ResourceCriteria) : Bool :=
  criteria.kinds.isEmpty && criteria.name.isEmpty && criteria.names.isEmpty
    && criteria.namespaces.isEmpty && criteria.annotations.isNone
    && criteria.labels.isNone && criteria.namespaceLabels.isNone

theorem isEmpty_iff {criteria : ResourceCriteria} : criteria.isEmpty = true ↔ criteria = empty := by
  cases criteria
  simp [isEmpty, empty, and_assoc]

end ResourceCriteria

structure Filter where
  requester : Requester
  resources : ResourceCriteria
  deriving DecidableEq

namespace Filter

def empty : Filter := ⟨.empty, .empty⟩

instance : Inhabited Filter := ⟨empty⟩

def isEmpty (filter : Filter) : Bool :=
  filter.requester.isEmpty && filter.resources.isEmpty

theorem isEmpty_iff {filter : Filter} : filter.isEmpty = true ↔ filter = empty := by
  cases filter
  simp [isEmpty, empty, Requester.isEmpty_iff, ResourceCriteria.isEmpty_iff]

/-! ### Building a filter criterion by criterion -/

def withKinds (filter : Filter) (kinds : List String) : Filter :=
  { filter with resources.kinds := kinds }

def withName (filter : Filter) (pattern : String) : Filter :=
  { filter with resources.name := pattern }

def withNames (filter : Filter) (patterns : List String) : Filter :=
  { filter with resources.names := patterns }

def withNamespaces (filter : Filter) (namespaces : List String) : Filter :=
  { filter with resources.namespaces := namespaces }

def annotate (filter : Filter) (key value : String) : Filter :=
  let held := filter.resources.annotations.getD .empty
  { filter with resources.annotations := some (held.insert key value) }

def withLabels (filter : Filter) (labels : LabelSelector) : Filter :=
  { filter with resources.labels := some labels }

def withNamespaceLabels (filter : Filter) (labels : LabelSelector) : Filter :=
  { filter with resources.namespaceLabels := some labels }

def withRoles (filter : Filter) (roles : List String) : Filter :=
  { filter with requester.roles := roles }

def withClusterRoles (filter : Filter) (roles : List String) : Filter :=
  { filter with requester.clusterRoles := roles }

def addSubject (filter : Filter) (subject : Subject) : Filter :=
  { filter with requester.subjects := filter.requester.subjects ++ [subject] }

end Filter

end AdmissionPolicy
