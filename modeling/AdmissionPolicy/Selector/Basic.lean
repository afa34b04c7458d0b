import AdmissionPolicy.Selector.Filter

/-!
The match block or the exclude block of a rule: criteria given directly, or a list of filters of
which any, or all, have to accept a request.
-/

namespace AdmissionPolicy

/-- A well-formed selector populates only one of the three; a document can populate more. -/
structure Selector where
  any : List Filter
  all : List Filter
  direct : Filter
  deriving DecidableEq

namespace Selector

def empty : Selector := ⟨[], [], .empty⟩

instance : Inhabited Selector := ⟨empty⟩

def ofFilter (filter : Filter) : Selector :=
  { empty with direct := filter }

def anyOf (filters : List Filter) : Selector :=
  { empty with any := filters }

def allOf (filters : List Filter) : Selector :=
  { empty with all := filters }

inductive Form
  | direct (filter : Filter)
  | any (filters : List Filter)
  | all (filters : List Filter)
  deriving DecidableEq

/-- `all` goes before `any`, and `any` before the direct criteria. -/
def form (selector : Selector) : Form :=
  if !selector.all.isEmpty then .all selector.all
  else if !selector.any.isEmpty then .any selector.any
  else .direct selector.direct

def isEmpty (selector : Selector) : Bool :=
  selector.direct.isEmpty && selector.any.isEmpty && selector.all.isEmpty

theorem isEmpty_iff {selector : Selector} : selector.isEmpty = true ↔ selector = empty := by
  cases selector
  simp only [isEmpty, empty, Bool.and_eq_true, Filter.isEmpty_iff, List.isEmpty_iff, mk.injEq]
  constructor
  · rintro ⟨⟨direct, any⟩, all⟩
    exact ⟨any, all, direct⟩
  · rintro ⟨any, all, direct⟩
    exact ⟨⟨direct, any⟩, all⟩

def kinds (selector : Selector) : List String :=
  selector.direct.resources.kinds
    ++ selector.all.flatMap (·.resources.kinds)
    ++ selector.any.flatMap (·.resources.kinds)

end Selector

end AdmissionPolicy
