import AdmissionPolicy.Pattern.Wildcard
import AdmissionPolicy.Rule

/-!
Whether the exclude block of a rule covers all that its match block selects, so that the rule never
applies. The comparison goes dimension by dimension and claims only what it can prove: wherever the
match block may reach a request that the exclude block lets through, the rule passes. Nothing is
proved about blocks that use `all`.
-/

namespace AdmissionPolicy

inductive Dimension
  | anyEntries
  | exclude
  | roles
  | clusterRoles
  | subjects
  | name
  | names
  | namespaces
  | kinds
  | labels
  | namespaceLabels
  | annotations
  deriving DecidableEq, Repr

def Dimension.text : Dimension → String
  | anyEntries => "AnyEntries"
  | exclude => "Exclude"
  | roles => "Roles"
  | clusterRoles => "ClusterRoles"
  | subjects => "Subjects"
  | name => "Name"
  | names => "Names"
  | namespaces => "Namespaces"
  | kinds => "Kinds"
  | labels => "Selector"
  | namespaceLabels => "NamespaceSelector"
  | annotations => "Annotations"

namespace Coverage

inductive Outcome
  | skipped
  | reachable (dimension : Dimension)
  | empty
  deriving DecidableEq, Repr

def Outcome.isConflict : Outcome → Bool
  | empty => true
  | _ => false

def coversValues {α : Type} [BEq α] (excluded matched : List α) : Bool :=
  !matched.isEmpty && matched.all fun value => excluded.contains value

def coversList {α : Type} [BEq α] (excluded matched : List α) : Bool :=
  excluded.isEmpty || coversValues excluded matched

def coversNames (excluded matched : List String) : Bool :=
  !matched.isEmpty &&
    matched.all fun name => excluded.any fun pattern => Pattern.matchesName pattern name

def coversLabels : (excluded matched : Option LabelSelector) → Bool
  | none, none => true
  | some excluded, some matched =>
      excluded.requirements.all (fun requirement => matched.requirements.contains requirement)
        && excluded.labels.entries.all
          (fun label => matched.labels.get? label.1 == some label.2)
  -- A predicate on one side only never covers, not even an empty one.
  | _, _ => false

def firstUncovered (checks : List (Dimension × Bool)) : Option Dimension :=
  (checks.find? fun check => !check.2).map Prod.fst

def leadingChecks (matched excluded : Filter) : List (Dimension × Bool) :=
  [ (.roles, coversList excluded.requester.roles matched.requester.roles),
    (.clusterRoles, coversList excluded.requester.clusterRoles matched.requester.clusterRoles),
    (.subjects, coversList excluded.requester.subjects matched.requester.subjects),
    (.name, excluded.resources.name.isEmpty
      || Pattern.matchesName excluded.resources.name matched.resources.name) ]

def closingChecks (matched excluded : ResourceCriteria) : List (Dimension × Bool) :=
  [ (.namespaces, coversList excluded.namespaces matched.namespaces),
    (.kinds, coversList excluded.kinds matched.kinds),
    (.labels, coversLabels excluded.labels matched.labels),
    (.namespaceLabels, coversLabels excluded.namespaceLabels matched.namespaceLabels),
    (.annotations, decide (excluded.annotations = matched.annotations)) ]

/-- The checks of one filter against another. Where the exclude block lists names, the names are
the last thing compared. -/
def checks (matched excluded : Filter) : List (Dimension × Bool) :=
  leadingChecks matched excluded ++
    if excluded.resources.names.isEmpty then closingChecks matched.resources excluded.resources
    else [(.names, coversNames excluded.resources.names matched.resources.names)]

/-- Compares a match block with an exclude block. Lists of alternatives are compared entry by entry,
each entry as a whole. -/
def analyze (matching excluding : Selector) : Outcome :=
  if !matching.all.isEmpty || !excluding.all.isEmpty then .skipped
  else if !matching.any.isEmpty && !excluding.any.isEmpty then
    if matching.any.all fun entry => excluding.any.contains entry then .empty
    else .reachable .anyEntries
  else if excluding.isEmpty then .reachable .exclude
  else
    match firstUncovered (checks matching.direct excluding.direct) with
    | some dimension => .reachable dimension
    | none => .empty

end Coverage

end AdmissionPolicy
