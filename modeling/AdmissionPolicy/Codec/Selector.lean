import AdmissionPolicy.Document.Instances
import AdmissionPolicy.Selector.Basic

/-!
Selectors in documents. The criteria on the requester stand beside `resources`, and the direct
criteria of a selector stand beside its lists `any` and `all`. A part without content is left out.
-/

namespace AdmissionPolicy

open Source

/-! ### Reading -/

section Decode

variable {σ : Type} [Source σ]

def LabelOperator.decode : σ → Decoded LabelOperator :=
  choiceOf (LabelOperator.all.map fun operator => (operator.name, operator))

def LabelRequirement.shape : RecordShape :=
  ⟨"LabelSelectorRequirement", ["key", "operator", "values"]⟩

def LabelRequirement.decode (value : σ) : Decoded LabelRequirement := do
  let fields ← record shape value
  let key ← fields.required "key" string
  let operator ← fields.required "operator" LabelOperator.decode
  let values ← fields.withDefault "values" [] strings
  return { key, operator, values }

def LabelSelector.shape : RecordShape :=
  ⟨"LabelSelector", ["matchLabels", "matchExpressions"]⟩

def LabelSelector.decode (value : σ) : Decoded LabelSelector := do
  let fields ← record shape value
  let labels ← fields.withDefault "matchLabels" .empty stringMap
  let requirements ←
    fields.withDefault "matchExpressions" [] (listOf LabelRequirement.decode)
  return { labels, requirements }

def Subject.shape : RecordShape :=
  ⟨"Subject", ["kind", "name", "namespace", "apiGroup"]⟩

def Subject.decode (value : σ) : Decoded Subject := do
  let fields ← record shape value
  let kind ← fields.required "kind" string
  let name ← fields.required "name" string
  let namespaceName ← fields.optional "namespace" string
  let group ← fields.optional "apiGroup" string
  return { kind, name, namespaceName, group }

/-- The fields on the requester; they stand among those of a filter. -/
def Requester.shape : RecordShape :=
  ⟨"UserInfo", ["roles", "clusterRoles", "subjects"]⟩

def Requester.ofFields (fields : Fields σ) : Decoded Requester := do
  let roles ← fields.withDefault "roles" [] strings
  let clusterRoles ← fields.withDefault "clusterRoles" [] strings
  let subjects ← fields.withDefault "subjects" [] (listOf Subject.decode)
  return { roles, clusterRoles, subjects }

def Requester.ofMembers (members : List (String × σ)) : Decoded Requester := do
  let (own, _) ← Fields.separate Requester.shape.fields members
  Requester.ofFields (.named own)

def ResourceCriteria.shape : RecordShape :=
  ⟨"ResourceDescription",
    ["kinds", "name", "names", "namespaces", "annotations", "selector", "namespaceSelector"]⟩

def ResourceCriteria.decode (value : σ) : Decoded ResourceCriteria := do
  let fields ← record shape value
  let kinds ← fields.withDefault "kinds" [] strings
  let name ← fields.withDefault "name" "" string
  let names ← fields.withDefault "names" [] strings
  let namespaces ← fields.withDefault "namespaces" [] strings
  let annotations ← fields.optional "annotations" stringMap
  let labels ← fields.optional "selector" LabelSelector.decode
  let namespaceLabels ← fields.optional "namespaceSelector" LabelSelector.decode
  return { kinds, name, names, namespaces, annotations, labels, namespaceLabels }

/-- The field of a filter that is its own; the others are those on the requester. -/
def Filter.shape : RecordShape :=
  ⟨"ResourceSelector", ["resources"]⟩

def Filter.ofParts (fields : Fields σ) (others : List (String × Content)) : Decoded Filter := do
  let resources ← fields.withDefault "resources" .empty ResourceCriteria.decode
  let requester ← Requester.ofMembers others
  return { requester, resources }

def Filter.decode (value : σ) : Decoded Filter := do
  let (fields, others) ← openRecord shape value
  Filter.ofParts fields others

def Filter.ofMembers (members : List (String × Content)) : Decoded Filter := do
  let (own, others) ← Fields.separate Filter.shape.fields members
  Filter.ofParts (.named own) others

def Selector.shape : RecordShape :=
  ⟨"CompositeSelector", ["any", "all"]⟩

def Selector.decode (value : σ) : Decoded Selector := do
  let (fields, others) ← openRecord shape value
  let any ← fields.withDefault "any" [] (listOf Filter.decode)
  let all ← fields.withDefault "all" [] (listOf Filter.decode)
  let direct ← Filter.ofMembers others
  return { any, all, direct }

end Decode

/-! ### Writing -/

open Json (memberIf memberOf texts ofDict)

def Json.listMember {α : Type} (key : String) (items : List α) (encode : α → Json) :
    List (String × Json) :=
  memberIf (!items.isEmpty) key (.list (items.map encode))

def Json.textMember (key value : String) : List (String × Json) :=
  memberIf (!value.isEmpty) key (.text value)

def Json.ofTextDict (dict : Dict String) : Json :=
  .object (dict.entries.map fun (key, value) => (key, .text value))

open Json (listMember textMember ofTextDict)

def LabelRequirement.encode (requirement : LabelRequirement) : Json :=
  .object ([("key", .text requirement.key), ("operator", .text requirement.operator.name)]
    ++ listMember "values" requirement.values .text)

def LabelSelector.encode (selector : LabelSelector) : Json :=
  .object (memberIf (!selector.labels.isEmpty) "matchLabels" (ofTextDict selector.labels)
    ++ listMember "matchExpressions" selector.requirements LabelRequirement.encode)

def Subject.encode (subject : Subject) : Json :=
  .object ([("kind", .text subject.kind), ("name", .text subject.name)]
    ++ memberOf "namespace" subject.namespaceName .text
    ++ memberOf "apiGroup" subject.group .text)

def Requester.members (requester : Requester) : List (String × Json) :=
  listMember "roles" requester.roles .text
    ++ listMember "clusterRoles" requester.clusterRoles .text
    ++ listMember "subjects" requester.subjects Subject.encode

def Requester.encode (requester : Requester) : Json :=
  .object requester.members

def ResourceCriteria.encode (criteria : ResourceCriteria) : Json :=
  .object (listMember "kinds" criteria.kinds .text
    ++ textMember "name" criteria.name
    ++ listMember "names" criteria.names .text
    ++ listMember "namespaces" criteria.namespaces .text
    ++ memberOf "annotations" criteria.annotations ofTextDict
    ++ memberOf "selector" criteria.labels LabelSelector.encode
    ++ memberOf "namespaceSelector" criteria.namespaceLabels LabelSelector.encode)

def Filter.members (filter : Filter) : List (String × Json) :=
  filter.requester.members
    ++ memberIf (!filter.resources.isEmpty) "resources" filter.resources.encode

def Filter.encode (filter : Filter) : Json :=
  .object filter.members

def Selector.encode (selector : Selector) : Json :=
  .object (listMember "any" selector.any Filter.encode
    ++ listMember "all" selector.all Filter.encode
    ++ selector.direct.members)

end AdmissionPolicy
