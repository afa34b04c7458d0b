import AdmissionPolicy.Codec.Rule
import AdmissionPolicy.Proofs.Codec.Selector

/-!
Rules and their effects read back from the documents they were written to. What stands in such a
document has to say what was written: null stands for nothing, and a field for itself.
-/

namespace AdmissionPolicy

open Source
open Json (Layout listed_memberIf listed_memberOf listed_listMember listed_textMember memberIf
  memberOf listMember textMember)

def NotNull (held : Option Value) : Prop :=
  ∀ value, held = some value → value.json ≠ .null

/-- No key that is kept beside the fields of a record is one of them. -/
def Beside (extra : Dict Value) (shape : RecordShape) : Prop :=
  ∀ key ∈ extra.keys, key ∉ shape.fields

namespace Effect

structure Mutation.Unambiguous (effect : Mutation) : Prop where
  strategicMerge : NotNull effect.strategicMerge
  extra : Beside effect.extra shape

structure Validation.Unambiguous (effect : Validation) : Prop where
  pattern : NotNull effect.pattern
  anyPattern : NotNull effect.anyPattern
  deny : NotNull effect.deny
  podSecurity : NotNull effect.podSecurity
  extra : Beside effect.extra shape

structure Generation.Unambiguous (effect : Generation) : Prop where
  data : NotNull effect.data
  clone : NotNull effect.clone
  extra : Beside effect.extra shape

structure ImageCheck.Unambiguous (effect : ImageCheck) : Prop where
  extra : Beside effect.extra shape

end Effect

/-- No value that is kept as it stands is null, and no effect keeps one of its fields a second
time. -/
structure Rule.Unambiguous (rule : Rule) : Prop where
  preconditions : NotNull rule.preconditions
  mutate : rule.mutate.Unambiguous
  validate : rule.validate.Unambiguous
  generate : rule.generate.Unambiguous
  verifyImages : ∀ check ∈ rule.verifyImages, check.Unambiguous

variable {σ : Type} [Source σ] [JsonSource σ] (layout : Layout)

section

variable {layout} {fields : Fields σ} {own : List (String × Json)} {name : String}

theorem Fields.Hold.value (held : fields.Hold layout own) {part : Option Value}
    (found : own.lookup name = part.map Value.json) (given : NotNull part) :
    fields.optional name verbatim = .ok part := by
  refine held.optional found (fun value present => ?_) fun value _ => verbatim_document layout value
  rw [layout.place_value]
  exact given value present

theorem Fields.Hold.flag (held : fields.Hold layout own) {part : Option Bool}
    (found : own.lookup name = part.map .bool) : fields.optional name Source.flag = .ok part := by
  refine held.optional found (fun value _ => ?_) fun value _ => flag_document layout value
  rw [layout.place_bool]
  exact Json.noConfusion

end

/-! ### Keys kept beside the fields -/

theorem decodeExtra_documents (extra : Dict Value) {rest : List (String × Content)}
    (same : rest.Perm (layout.documents (Effect.extraMembers extra))) :
    decodeExtra rest = .ok extra := by
  rw [Layout.documents, Effect.extraMembers, List.map_map] at same
  have each (value : Value) : Content.toValue (layout.document value.json) = .ok value :=
    verbatim_document (σ := Content) layout value
  obtain ⟨read, values, order⟩ := membersOf_perm same each
  rw [List.map_id'] at order
  rw [decodeExtra, values]
  exact congrArg Except.ok (Dict.ofList_of_perm order)

theorem openRecord_document_extra (shape : RecordShape) {own : List (String × Json)}
    {extra : Dict Value} (listed : Listed own shape.fields) (distinct : shape.fields.Nodup)
    (beside : Beside extra shape) :
    ∃ fields rest,
      openRecord shape (layout.document (.object (own ++ Effect.extraMembers extra)) : σ) =
          .ok (fields, rest) ∧
        fields.Hold layout own ∧ decodeExtra rest = .ok extra := by
  have keys : (Effect.extraMembers extra).map Prod.fst = extra.keys := List.map_map
  have parted :
      Parted shape.fields (own ++ Effect.extraMembers extra) own (Effect.extraMembers extra) :=
    ⟨.refl _, distinct, listed,
      fun member present => beside member.1 (keys ▸ List.mem_map_of_mem present),
      keys ▸ Dict.nodup_keys_of_increasing extra.ordered⟩
  obtain ⟨fields, rest, read, held, same⟩ := openRecord_document (σ := σ) layout shape parted
  exact ⟨fields, rest, read, held, decodeExtra_documents layout extra same⟩

/-! ### Effects

An effect is written with the members of its fields, and behind them those that it keeps beside them.
-/

namespace Effect

def Mutation.fieldMembers (effect : Mutation) : List (String × Json) :=
  memberOf "patchStrategicMerge" effect.strategicMerge Value.json
    ++ textMember "patchesJson6902" effect.jsonPatches
    ++ listMember "targets" effect.targets Value.json
    ++ listMember "foreach" effect.forEach Value.json

theorem Mutation.listed_fieldMembers (effect : Mutation) :
    Listed effect.fieldMembers shape.fields :=
  (((listed_memberOf _ _ _).append (listed_textMember _ _)).append
    (listed_listMember _ _ _)).append (listed_listMember _ _ _)

theorem Mutation.encode_eq (effect : Mutation) :
    effect.encode = .object (effect.fieldMembers ++ extraMembers effect.extra) :=
  rfl

theorem Mutation.decode_document {effect : Mutation} (clear : effect.Unambiguous) :
    decode (layout.document effect.encode : σ) = .ok effect := by
  obtain ⟨fields, rest, read, held, extra⟩ :=
    openRecord_document_extra (σ := σ) layout shape effect.listed_fieldMembers (by decide)
      clear.extra
  have strategicMerge :
      fields.optional "patchStrategicMerge" verbatim = .ok effect.strategicMerge :=
    held.value (by simp [fieldMembers]) clear.strategicMerge
  have jsonPatches : fields.withDefault "patchesJson6902" "" string = .ok effect.jsonPatches :=
    held.text (by simp [fieldMembers])
  have targets : fields.withDefault "targets" [] decodeValues = .ok effect.targets :=
    held.list (by simp [fieldMembers]) fun value _ => verbatim_document layout value
  have forEach : fields.withDefault "foreach" [] decodeValues = .ok effect.forEach :=
    held.list (by simp [fieldMembers]) fun value _ => verbatim_document layout value
  simp only [decode, encode_eq, read, ok_bind, strategicMerge, jsonPatches, targets, forEach, extra]
  rfl

def Validation.fieldMembers (effect : Validation) : List (String × Json) :=
  textMember "message" effect.message
    ++ memberOf "pattern" effect.pattern Value.json
    ++ memberOf "anyPattern" effect.anyPattern Value.json
    ++ memberOf "deny" effect.deny Value.json
    ++ listMember "foreach" effect.forEach Value.json
    ++ memberOf "podSecurity" effect.podSecurity Value.json

theorem Validation.listed_fieldMembers (effect : Validation) :
    Listed effect.fieldMembers shape.fields :=
  (((((listed_textMember _ _).append (listed_memberOf _ _ _)).append
    (listed_memberOf _ _ _)).append (listed_memberOf _ _ _)).append
    (listed_listMember _ _ _)).append (listed_memberOf _ _ _)

theorem Validation.encode_eq (effect : Validation) :
    effect.encode = .object (effect.fieldMembers ++ extraMembers effect.extra) :=
  rfl

theorem Validation.decode_document {effect : Validation} (clear : effect.Unambiguous) :
    decode (layout.document effect.encode : σ) = .ok effect := by
  obtain ⟨fields, rest, read, held, extra⟩ :=
    openRecord_document_extra (σ := σ) layout shape effect.listed_fieldMembers (by decide)
      clear.extra
  have message : fields.withDefault "message" "" string = .ok effect.message :=
    held.text (by simp [fieldMembers])
  have pattern : fields.optional "pattern" verbatim = .ok effect.pattern :=
    held.value (by simp [fieldMembers]) clear.pattern
  have anyPattern : fields.optional "anyPattern" verbatim = .ok effect.anyPattern :=
    held.value (by simp [fieldMembers]) clear.anyPattern
  have deny : fields.optional "deny" verbatim = .ok effect.deny :=
    held.value (by simp [fieldMembers]) clear.deny
  have forEach : fields.withDefault "foreach" [] decodeValues = .ok effect.forEach :=
    held.list (by simp [fieldMembers]) fun value _ => verbatim_document layout value
  have podSecurity : fields.optional "podSecurity" verbatim = .ok effect.podSecurity :=
    held.value (by simp [fieldMembers]) clear.podSecurity
  simp only [decode, encode_eq, read, ok_bind, message, pattern, anyPattern, deny, forEach,
    podSecurity, extra]
  rfl

def Generation.fieldMembers (effect : Generation) : List (String × Json) :=
  textMember "apiVersion" effect.apiVersion
    ++ textMember "kind" effect.kind
    ++ textMember "name" effect.name
    ++ textMember "namespace" effect.namespaceName
    ++ memberIf effect.synchronize "synchronize" (.bool effect.synchronize)
    ++ memberOf "data" effect.data Value.json
    ++ memberOf "clone" effect.clone Value.json

theorem Generation.listed_fieldMembers (effect : Generation) :
    Listed effect.fieldMembers shape.fields :=
  ((((((listed_textMember _ _).append (listed_textMember _ _)).append
    (listed_textMember _ _)).append (listed_textMember _ _)).append
    (listed_memberIf _ _ _)).append (listed_memberOf _ _ _)).append (listed_memberOf _ _ _)

theorem Generation.encode_eq (effect : Generation) :
    effect.encode = .object (effect.fieldMembers ++ extraMembers effect.extra) :=
  rfl

theorem Generation.decode_document {effect : Generation} (clear : effect.Unambiguous) :
    decode (layout.document effect.encode : σ) = .ok effect := by
  obtain ⟨fields, rest, read, held, extra⟩ :=
    openRecord_document_extra (σ := σ) layout shape effect.listed_fieldMembers (by decide)
      clear.extra
  have apiVersion : fields.withDefault "apiVersion" "" string = .ok effect.apiVersion :=
    held.text (by simp [fieldMembers])
  have kind : fields.withDefault "kind" "" string = .ok effect.kind :=
    held.text (by simp [fieldMembers])
  have name : fields.withDefault "name" "" string = .ok effect.name :=
    held.text (by simp [fieldMembers])
  have namespaceName : fields.withDefault "namespace" "" string = .ok effect.namespaceName :=
    held.text (by simp [fieldMembers])
  have synchronize : fields.withDefault "synchronize" false flag = .ok effect.synchronize :=
    held.withDefault effect.synchronize (by simp [fieldMembers]) Eq.symm
      (flag_document layout effect.synchronize)
  have data : fields.optional "data" verbatim = .ok effect.data :=
    held.value (by simp [fieldMembers]) clear.data
  have clone : fields.optional "clone" verbatim = .ok effect.clone :=
    held.value (by simp [fieldMembers]) clear.clone
  simp only [decode, encode_eq, read, ok_bind, apiVersion, kind, name, namespaceName, synchronize,
    data, clone, extra]
  rfl

def ImageCheck.fieldMembers (effect : ImageCheck) : List (String × Json) :=
  listMember "imageReferences" effect.references .text
    ++ listMember "attestors" effect.attestors Value.json
    ++ listMember "attestations" effect.attestations Value.json
    ++ memberOf "mutateDigest" effect.mutateDigest .bool
    ++ memberOf "verifyDigest" effect.verifyDigest .bool

theorem ImageCheck.listed_fieldMembers (effect : ImageCheck) :
    Listed effect.fieldMembers shape.fields :=
  ((((listed_listMember _ _ _).append (listed_listMember _ _ _)).append
    (listed_listMember _ _ _)).append (listed_memberOf _ _ _)).append (listed_memberOf _ _ _)

theorem ImageCheck.encode_eq (effect : ImageCheck) :
    effect.encode = .object (effect.fieldMembers ++ extraMembers effect.extra) :=
  rfl

theorem ImageCheck.decode_document {effect : ImageCheck} (clear : effect.Unambiguous) :
    decode (layout.document effect.encode : σ) = .ok effect := by
  obtain ⟨fields, rest, read, held, extra⟩ :=
    openRecord_document_extra (σ := σ) layout shape effect.listed_fieldMembers (by decide)
      clear.extra
  have references : fields.withDefault "imageReferences" [] strings = .ok effect.references :=
    held.list (by simp [fieldMembers]) fun _ _ => string_document layout _
  have attestors : fields.withDefault "attestors" [] decodeValues = .ok effect.attestors :=
    held.list (by simp [fieldMembers]) fun value _ => verbatim_document layout value
  have attestations : fields.withDefault "attestations" [] decodeValues =
      .ok effect.attestations :=
    held.list (by simp [fieldMembers]) fun value _ => verbatim_document layout value
  have mutateDigest : fields.optional "mutateDigest" flag = .ok effect.mutateDigest :=
    held.flag (by simp [fieldMembers])
  have verifyDigest : fields.optional "verifyDigest" flag = .ok effect.verifyDigest :=
    held.flag (by simp [fieldMembers])
  simp only [decode, encode_eq, read, ok_bind, references, attestors, attestations, mutateDigest,
    verifyDigest, extra]
  rfl

end Effect

/-! ### Rules -/

theorem Rule.decode_document {rule : Rule} (clear : rule.Unambiguous) :
    decode (layout.document rule.encode : σ) = .ok rule := by
  have listed := ((((((((listed_textMember "name" rule.name).append
    (listed_listMember "context" rule.context Value.json)).append
    (listed_memberIf (!rule.matching.isEmpty) "match" rule.matching.encode)).append
    (listed_memberIf (!rule.excluding.isEmpty) "exclude" rule.excluding.encode)).append
    (listed_memberOf "preconditions" rule.preconditions Value.json)).append
    (listed_memberIf (!rule.mutate.isEmpty) "mutate" rule.mutate.encode)).append
    (listed_memberIf (!rule.validate.isEmpty) "validate" rule.validate.encode)).append
    (listed_memberIf (!rule.generate.isEmpty) "generate" rule.generate.encode)).append
    (listed_listMember "verifyImages" rule.verifyImages Effect.ImageCheck.encode)
  obtain ⟨fields, read, held⟩ := record_document (σ := σ) layout shape listed (by decide)
  have name : fields.withDefault "name" "" string = .ok rule.name :=
    held.text (by simp)
  have context : fields.withDefault "context" [] decodeValues = .ok rule.context :=
    held.list (by simp) fun value _ => verbatim_document layout value
  have matching : fields.withDefault "match" .empty Selector.decode = .ok rule.matching :=
    held.part Selector.isEmpty_iff.1 (by simp) (rule.matching.decode_document layout)
  have excluding : fields.withDefault "exclude" .empty Selector.decode = .ok rule.excluding :=
    held.part Selector.isEmpty_iff.1 (by simp) (rule.excluding.decode_document layout)
  have preconditions : fields.optional "preconditions" verbatim = .ok rule.preconditions :=
    held.value (by simp) clear.preconditions
  have mutate : fields.withDefault "mutate" .empty Effect.Mutation.decode = .ok rule.mutate :=
    held.part Effect.Mutation.isEmpty_iff.1 (by simp)
      (Effect.Mutation.decode_document layout clear.mutate)
  have validate : fields.withDefault "validate" .empty Effect.Validation.decode =
      .ok rule.validate :=
    held.part Effect.Validation.isEmpty_iff.1 (by simp)
      (Effect.Validation.decode_document layout clear.validate)
  have generate : fields.withDefault "generate" .empty Effect.Generation.decode =
      .ok rule.generate :=
    held.part Effect.Generation.isEmpty_iff.1 (by simp)
      (Effect.Generation.decode_document layout clear.generate)
  have verifyImages : fields.withDefault "verifyImages" [] (listOf Effect.ImageCheck.decode) =
      .ok rule.verifyImages :=
    held.list (by simp) fun check present =>
      Effect.ImageCheck.decode_document layout (clear.verifyImages check present)
  rw [decode, encode, read, ok_bind, name, ok_bind, context, ok_bind, matching, ok_bind, excluding,
    ok_bind, preconditions, ok_bind, mutate, ok_bind, validate, ok_bind, generate, ok_bind,
    verifyImages]
  rfl

end AdmissionPolicy
