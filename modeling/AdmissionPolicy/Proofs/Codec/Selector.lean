import AdmissionPolicy.Proofs.Codec.Source

/-!
Selectors, and all their parts, read back from the documents they were written to. The direct
criteria of a selector are read from content that was taken down, those on the requester once more.
-/

namespace AdmissionPolicy

open Source
open Json (Layout listed_memberIf listed_memberOf listed_listMember listed_textMember memberIf
  memberOf listMember textMember ofTextDict)

variable {σ : Type} [Source σ] [JsonSource σ] (layout : Layout)

theorem LabelOperator.decode_document (operator : LabelOperator) :
    decode (layout.document (.text operator.name) : σ) = .ok operator := by
  rw [decode, choiceOf, Layout.document, layout.place_text, JsonSource.choice_ofJson, ok_bind]
  cases operator <;> rfl

theorem LabelRequirement.decode_document (requirement : LabelRequirement) :
    decode (layout.document requirement.encode : σ) = .ok requirement := by
  have always : Listed
      [("key", Json.text requirement.key), ("operator", Json.text requirement.operator.name)]
      ["key", "operator"] := .refl _
  have listed := always.append (listed_listMember "values" requirement.values .text)
  obtain ⟨fields, read, held⟩ := record_document (σ := σ) layout shape listed (by decide)
  have key : fields.required "key" string = .ok requirement.key :=
    held.required (by simp) (string_document layout _)
  have operator : fields.required "operator" LabelOperator.decode = .ok requirement.operator :=
    held.required (by simp) (LabelOperator.decode_document layout _)
  have values : fields.withDefault "values" [] strings = .ok requirement.values :=
    held.list (by simp) fun _ _ => string_document layout _
  rw [decode, encode, read, ok_bind, key, ok_bind, operator, ok_bind, values]
  rfl

/-! ### Label selectors -/

namespace LabelSelector

theorem listed_members (selector : LabelSelector) :
    Listed (memberIf (!selector.labels.isEmpty) "matchLabels" (ofTextDict selector.labels)
      ++ listMember "matchExpressions" selector.requirements LabelRequirement.encode)
      shape.fields :=
  (listed_memberIf _ _ _).append (listed_listMember _ _ _)

theorem decode_document (selector : LabelSelector) :
    decode (layout.document selector.encode : σ) = .ok selector := by
  obtain ⟨fields, read, held⟩ :=
    record_document (σ := σ) layout shape selector.listed_members (by decide)
  have labels : fields.withDefault "matchLabels" .empty stringMap = .ok selector.labels :=
    held.part Dict.isEmpty_iff.1 (by simp) (stringMap_document layout selector.labels)
  have requirements : fields.withDefault "matchExpressions" [] (listOf LabelRequirement.decode) =
      .ok selector.requirements :=
    held.list (by simp) fun requirement _ => requirement.decode_document layout
  rw [decode, encode, read, ok_bind, labels, ok_bind, requirements]
  rfl

theorem place_encode_ne_null (selector : LabelSelector) : layout.place selector.encode ≠ .null :=
  layout.place_object_ne_null (selector.listed_members.nodup (by decide))

end LabelSelector

/-! ### The requester -/

theorem Subject.decode_document (subject : Subject) :
    decode (layout.document subject.encode : σ) = .ok subject := by
  have always : Listed [("kind", Json.text subject.kind), ("name", Json.text subject.name)]
      ["kind", "name"] := .refl _
  have listed := (always.append (listed_memberOf "namespace" subject.namespaceName .text)).append
    (listed_memberOf "apiGroup" subject.group .text)
  obtain ⟨fields, read, held⟩ := record_document (σ := σ) layout shape listed (by decide)
  have kind : fields.required "kind" string = .ok subject.kind :=
    held.required (by simp) (string_document layout _)
  have name : fields.required "name" string = .ok subject.name :=
    held.required (by simp) (string_document layout _)
  have namespaceName : fields.optional "namespace" string = .ok subject.namespaceName :=
    held.optionalString (by simp)
  have group : fields.optional "apiGroup" string = .ok subject.group :=
    held.optionalString (by simp)
  rw [decode, encode, read, ok_bind, kind, ok_bind, name, ok_bind, namespaceName, ok_bind, group]
  rfl

namespace Requester

theorem listed_members (requester : Requester) : Listed requester.members shape.fields :=
  ((listed_listMember _ _ _).append (listed_listMember _ _ _)).append (listed_listMember _ _ _)

theorem ofMembers_documents (requester : Requester) {given : List (String × σ)}
    (same : given.Perm (layout.documents requester.members)) :
    ofMembers given = .ok requester := by
  obtain ⟨kept, _, parts, held, _⟩ :=
    Fields.separate_documents layout same (requester.listed_members.alone (by decide))
  have roles : (Fields.named kept).withDefault "roles" [] strings = .ok requester.roles :=
    held.list (by simp [members]) fun _ _ => string_document layout _
  have clusterRoles : (Fields.named kept).withDefault "clusterRoles" [] strings =
      .ok requester.clusterRoles :=
    held.list (by simp [members]) fun _ _ => string_document layout _
  have subjects : (Fields.named kept).withDefault "subjects" [] (listOf Subject.decode) =
      .ok requester.subjects :=
    held.list (by simp [members]) fun subject _ => subject.decode_document layout
  simp only [ofMembers, parts, ok_bind]
  rw [ofFields, roles, ok_bind, clusterRoles, ok_bind, subjects]
  rfl

end Requester

/-! ### Resources -/

theorem ResourceCriteria.decode_document (criteria : ResourceCriteria) :
    decode (layout.document criteria.encode : σ) = .ok criteria := by
  have listed := ((((((listed_listMember "kinds" criteria.kinds .text).append
    (listed_textMember "name" criteria.name)).append
    (listed_listMember "names" criteria.names .text)).append
    (listed_listMember "namespaces" criteria.namespaces .text)).append
    (listed_memberOf "annotations" criteria.annotations ofTextDict)).append
    (listed_memberOf "selector" criteria.labels LabelSelector.encode)).append
    (listed_memberOf "namespaceSelector" criteria.namespaceLabels LabelSelector.encode)
  obtain ⟨fields, read, held⟩ := record_document (σ := σ) layout shape listed (by decide)
  have kinds : fields.withDefault "kinds" [] strings = .ok criteria.kinds :=
    held.list (by simp) fun _ _ => string_document layout _
  have name : fields.withDefault "name" "" string = .ok criteria.name :=
    held.text (by simp)
  have names : fields.withDefault "names" [] strings = .ok criteria.names :=
    held.list (by simp) fun _ _ => string_document layout _
  have namespaces : fields.withDefault "namespaces" [] strings = .ok criteria.namespaces :=
    held.list (by simp) fun _ _ => string_document layout _
  have annotations : fields.optional "annotations" stringMap = .ok criteria.annotations :=
    held.optional (by simp) (fun dict _ => layout.place_ofTextDict_ne_null dict)
      fun dict _ => stringMap_document layout dict
  have labels : fields.optional "selector" LabelSelector.decode = .ok criteria.labels :=
    held.optional (by simp) (fun selector _ => selector.place_encode_ne_null layout)
      fun selector _ => selector.decode_document layout
  have namespaceLabels : fields.optional "namespaceSelector" LabelSelector.decode =
      .ok criteria.namespaceLabels :=
    held.optional (by simp) (fun selector _ => selector.place_encode_ne_null layout)
      fun selector _ => selector.decode_document layout
  rw [decode, encode, read, ok_bind, kinds, ok_bind, name, ok_bind, names, ok_bind, namespaces,
    ok_bind, annotations, ok_bind, labels, ok_bind, namespaceLabels]
  rfl

/-! ### Filters and selectors -/

namespace Filter

theorem parted (filter : Filter) :
    Parted shape.fields filter.members
      (memberIf (!filter.resources.isEmpty) "resources" filter.resources.encode)
      filter.requester.members :=
  Listed.parted (listed_memberIf _ _ _) filter.requester.listed_members (by decide)
    List.perm_append_comm

theorem listed_members (filter : Filter) :
    Listed filter.members (Requester.shape.fields ++ shape.fields) :=
  filter.requester.listed_members.append (listed_memberIf _ _ _)

theorem ofParts_documents (filter : Filter) {fields : Fields σ} {others : List (String × Content)}
    (held : fields.Hold layout
      (memberIf (!filter.resources.isEmpty) "resources" filter.resources.encode))
    (same : others.Perm (layout.documents filter.requester.members)) :
    ofParts fields others = .ok filter := by
  have resources : fields.withDefault "resources" .empty ResourceCriteria.decode =
      .ok filter.resources :=
    held.part ResourceCriteria.isEmpty_iff.1 (by simp) (filter.resources.decode_document layout)
  rw [ofParts, resources, ok_bind, Requester.ofMembers_documents layout filter.requester same]
  rfl

theorem decode_document (filter : Filter) :
    decode (layout.document filter.encode : σ) = .ok filter := by
  obtain ⟨fields, rest, read, held, same⟩ := openRecord_document (σ := σ) layout shape filter.parted
  rw [decode, encode, read]
  exact filter.ofParts_documents layout held same

theorem ofMembers_documents (filter : Filter) {given : List (String × Content)}
    (same : given.Perm (layout.documents filter.members)) : ofMembers given = .ok filter := by
  obtain ⟨kept, rest, parts, held, others⟩ := Fields.separate_documents layout same filter.parted
  rw [ofMembers, parts]
  exact filter.ofParts_documents layout held others

end Filter

theorem Selector.decode_document (selector : Selector) :
    decode (layout.document selector.encode : σ) = .ok selector := by
  have listed := (listed_listMember "any" selector.any Filter.encode).append
    (listed_listMember "all" selector.all Filter.encode)
  obtain ⟨fields, rest, read, held, same⟩ := openRecord_document (σ := σ) layout shape
    (listed.parted selector.direct.listed_members (by decide) (.refl _))
  have any : fields.withDefault "any" [] (listOf Filter.decode) = .ok selector.any :=
    held.list (by simp) fun filter _ => filter.decode_document layout
  have all : fields.withDefault "all" [] (listOf Filter.decode) = .ok selector.all :=
    held.list (by simp) fun filter _ => filter.decode_document layout
  have direct : Filter.ofMembers rest = .ok selector.direct :=
    selector.direct.ofMembers_documents layout same
  simp only [decode, encode, read, ok_bind, any, all, direct]
  rfl

end AdmissionPolicy
