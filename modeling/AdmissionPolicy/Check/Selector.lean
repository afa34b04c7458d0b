import AdmissionPolicy.Finding
import AdmissionPolicy.Selector.Basic

/-!
The structure of a match block or an exclude block: what can be checked without a cluster.
-/

namespace AdmissionPolicy

/-- Where a policy applies: in one namespace or in a whole cluster, and the kinds that exist outside
of namespaces. -/
structure Scope where
  namespaced : Bool
  clusterKinds : TextSet

abbrev SelectorCheck := Selector → Location → Scope → List Finding

def findingIf (condition : Bool) (finding : Finding) : List Finding :=
  if condition then [finding] else []

def findingsOfItems {α : Type} (items : List α) (place : Location)
    (check : α → Location → List Finding) : List Finding :=
  items.zipIdx.flatMap fun (item, position) => check item (place.index position)

def LabelRequirement.check (requirement : LabelRequirement) (place : Location) : List Finding :=
  let operator := requirement.operator
  let given := !requirement.values.isEmpty
  findingIf requirement.key.isEmpty (.required (place.child "key") "label key is required")
    ++ findingIf (operator.takesValues && !given)
      (.required (place.child "values")
        ("values must be non-empty for operator " ++ operator.name))
    ++ findingIf (!operator.takesValues && given)
      (.forbidden (place.child "values")
        ("values must be empty for operator " ++ operator.name))

def LabelSelector.check (selector : LabelSelector) (place : Location) : List Finding :=
  findingsOfItems selector.requirements (place.child "matchExpressions") LabelRequirement.check

def checkLabels (labels : Option LabelSelector) (place : Location) : List Finding :=
  match labels with
  | none => []
  | some selector => selector.check place

def Subject.check (subject : Subject) (place : Location) : List Finding :=
  findingIf subject.kind.isEmpty (.required (place.child "kind") "subject kind is required")
    ++ findingIf subject.name.isEmpty (.required (place.child "name") "subject name is required")

def ResourceCriteria.checkScope (criteria : ResourceCriteria) (place : Location) (scope : Scope) :
    List Finding :=
  if !scope.namespaced then []
  else
    findingIf (!criteria.namespaces.isEmpty)
        (.forbidden (place.child "namespaces")
          "namespaces are not allowed in a namespaced policy")
      ++ findingsOfItems criteria.kinds (place.child "kinds") fun kind place =>
        findingIf (scope.clusterKinds.contains kind)
          (.forbidden place s!"cluster-scoped kind {kind} is not allowed in a namespaced policy")

def ResourceCriteria.check (criteria : ResourceCriteria) (place : Location) (scope : Scope) :
    List Finding :=
  findingIf (!criteria.name.isEmpty && !criteria.names.isEmpty)
      (.invalid place criteria.name "both name and names can not be specified together")
    ++ criteria.checkScope place scope
    ++ checkLabels criteria.labels (place.child "selector")
    ++ checkLabels criteria.namespaceLabels (place.child "namespaceSelector")

def Filter.check (filter : Filter) (place : Location) (scope : Scope) : List Finding :=
  filter.resources.check (place.child "resources") scope
    ++ findingsOfItems filter.requester.subjects (place.child "subjects") Subject.check

namespace Selector

def checkForm (selector : Selector) (place : Location) : List Finding :=
  findingIf (!selector.any.isEmpty && !selector.all.isEmpty)
      (.invalid place "any/all" "can't specify any and all together")
    ++ findingIf ((!selector.any.isEmpty || !selector.all.isEmpty) && !selector.direct.isEmpty)
      (.invalid place "resources/user info"
        "can't specify any/all together with direct resource or user info")

def check : SelectorCheck := fun selector place scope =>
  selector.checkForm place
    ++ selector.direct.check place scope
    ++ findingsOfItems selector.any (place.child "any")
      (fun filter place => filter.check place scope)
    ++ findingsOfItems selector.all (place.child "all")
      (fun filter place => filter.check place scope)

end Selector

end AdmissionPolicy
