import Mathlib.Data.List.Nodup
import AdmissionPolicy.Proofs.Codec.Decoded
import AdmissionPolicy.Proofs.Codec.Emptiness
import AdmissionPolicy.Proofs.Rule.Effects

/-!
Effects written again after they were decoded from an object. The object comes back, less the fields
that held their defaults; keys that are no fields come back whatever stands under them, and make a
rule declare the effect.
-/

namespace AdmissionPolicy

open Source

namespace Effect

/-- What a field of an effect holds; by it, one value stands for nothing. -/
inductive FieldKind
  | optional
  | text
  | list
  | flag

def FieldKind.isDefault : FieldKind → Json → Bool
  | optional, .null => true
  | text, .text value => value.isEmpty
  | list, .list items => items.isEmpty
  | flag, .bool value => !value
  | _, _ => false

/-- Whether an object would say something else without the member. -/
def counts (kinds : List (String × FieldKind)) (member : String × Json) : Bool :=
  match kinds.lookup member.1 with
  | none => true
  | some kind => !kind.isDefault member.2

theorem counts_of_unknown {kinds : List (String × FieldKind)} {member : String × Json}
    (unknown : member.1 ∉ kinds.map Prod.fst) : counts kinds member = true := by
  have absent : kinds.lookup member.1 = none := by
    rw [List.lookup_eq_none_iff]
    intro field listed
    rw [bne_iff_ne]
    intro same
    exact unknown (same ▸ List.mem_map_of_mem listed)
  rw [counts, absent]

end Effect

/-! ### Fields -/

namespace Fields

open Effect (FieldKind)

variable {α : Type} {fields : Fields Json} {name : String}

/-- What an object holds for a field, unless it holds its default. -/
def counted (fields : Fields Json) (name : String) (kind : FieldKind) : Option Json :=
  (fields.given.lookup name).filter fun value => !kind.isDefault value

theorem optional_counted {part : Option α} {decode : Json → Decoded α} {encode : α → Json}
    (read : fields.optional name decode = .ok part)
    (back : ∀ value held, fields.given.lookup name = some value → decode value = .ok held →
      encode held = value) :
    part.map encode = fields.counted name .optional := by
  simp only [optional] at read
  split at read
  · rename_i absent
    cases read
    rw [counted, absent]
    rfl
  · rename_i value found
    by_cases nothing : value = .null
    · subst nothing
      cases read
      rw [counted, found]
      rfl
    · have present : Source.present value = .ok (some value) :=
        JsonSource.present_ofJson (σ := Json) nothing
      have given : FieldKind.optional.isDefault value = false := by
        cases value with
        | null => exact absurd rfl nothing
        | _ => rfl
      simp only [present, ok_bind, bind_eq_ok_iff, pure_eq_ok_iff] at read
      obtain ⟨held, heldRead, rfl⟩ := read
      rw [counted, found, Option.map_some, back value held found heldRead,
        Option.filter_some, given]
      rfl

theorem withDefault_counted (isEmpty : α → Bool) (encode : α → Json) {kind : FieldKind}
    {part default : α} {decode : Json → Decoded α}
    (read : fields.withDefault name default decode = .ok part) (absent : isEmpty default = true)
    (back : ∀ value, fields.given.lookup name = some value → decode value = .ok part →
      encode part = value ∧ kind.isDefault value = isEmpty part) :
    (if !isEmpty part then some (encode part) else none) = fields.counted name kind := by
  simp only [withDefault] at read
  split at read
  · rename_i value found
    obtain ⟨same, empty⟩ := back value found read
    rw [counted, found, same, Option.filter_some, empty]
  · rename_i missing
    cases read
    rw [counted, missing, absent]
    rfl

theorem optionalFlag_counted {part : Option Bool} (read : fields.optional name flag = .ok part) :
    part.map .bool = fields.counted name .optional := by
  refine optional_counted read fun value held _ heldRead => ?_
  cases value with
  | bool => cases heldRead; rfl
  | _ => cases heldRead

theorem flag_counted {part : Bool} (read : fields.withDefault name false flag = .ok part) :
    (if part then some (.bool part) else none) = fields.counted name .flag := by
  have counted : (if !(!part) then some (Json.bool part) else none) = fields.counted name .flag := by
    refine withDefault_counted not .bool read rfl fun value _ valueRead => ?_
    cases value with
    | bool => cases valueRead; exact ⟨rfl, rfl⟩
    | _ => cases valueRead
  simpa using counted

theorem text_counted {part : String} (read : fields.withDefault name "" string = .ok part) :
    (if !part.isEmpty then some (.text part) else none) = fields.counted name .text := by
  refine withDefault_counted String.isEmpty .text read rfl fun value _ valueRead => ?_
  cases value with
  | text => cases valueRead; exact ⟨rfl, rfl⟩
  | _ => cases valueRead

theorem list_counted {items : List α} {decode : Json → Decoded α} {encode : α → Json}
    (read : fields.withDefault name [] (listOf decode) = .ok items)
    (back : ∀ listed, fields.given.lookup name = some (.list listed) → ∀ part ∈ listed,
      ∀ item, decode part = .ok item → encode item = part) :
    (if !items.isEmpty then some (.list (items.map encode)) else none) =
      fields.counted name .list := by
  refine withDefault_counted List.isEmpty (fun items => .list (items.map encode)) read rfl
    fun value found valueRead => ?_
  simp only [listOf, bind_eq_ok_iff] at valueRead
  obtain ⟨parts, listed, decoded⟩ := valueRead
  cases value with
  | list held =>
      cases listed
      have same := map_of_mapM_eq_ok decoded (back parts found)
      refine ⟨congrArg Json.list same, ?_⟩
      rw [← same, Effect.FieldKind.isDefault, List.isEmpty_map]
  | _ => cases listed

theorem strings_counted {items : List String}
    (read : fields.withDefault name [] strings = .ok items) :
    (if !items.isEmpty then some (.list (items.map .text)) else none) =
      fields.counted name .list := by
  refine list_counted read fun _ _ part _ item partRead => ?_
  cases part with
  | text => cases partRead; rfl
  | _ => cases partRead

variable (canonical : fields.Canonical)

include canonical in
theorem value_counted {part : Option Value} (read : fields.optional name verbatim = .ok part) :
    part.map Value.json = fields.counted name .optional := by
  refine optional_counted read fun value held found heldRead => ?_
  cases heldRead
  exact Json.canonical_eq_self value (canonical.lookup found)

include canonical in
theorem values_counted {items : List Value}
    (read : fields.withDefault name [] decodeValues = .ok items) :
    (if !items.isEmpty then some (.list (items.map Value.json)) else none) =
      fields.counted name .list := by
  refine list_counted read fun listed found part member item partRead => ?_
  cases partRead
  exact Json.canonical_eq_self part (Json.canonicalItems_iff.1 (canonical.lookup found) part member)

end Fields

/-! ### Objects -/

theorem Json.canonical_object_of_perm {members sorted : List (String × Json)}
    (same : members.Perm sorted) (canonical : (Json.object sorted).Canonical) :
    (Json.object members).canonical = .object sorted := by
  have parts : CanonicalMembers members := by
    rw [canonicalMembers_iff]
    intro member present
    exact canonicalMembers_iff.1 canonical.2 member (same.subset present)
  have listed : Dict.ofList members = ⟨sorted, canonical.1⟩ := Dict.ofList_of_perm same
  rw [Json.canonical, canonicalMembers_eq_self members parts, listed]
  rfl

namespace Effect

variable {kinds : List (String × FieldKind)} {members own : List (String × Json)}

theorem perm_of_counted {fields : Fields Json} (distinct : (kinds.map Prod.fst).Nodup)
    (listed : Listed own (kinds.map Prod.fst))
    (unique : (fields.given.map Prod.fst).Nodup)
    (known : ∀ member ∈ fields.given, member.1 ∈ kinds.map Prod.fst)
    (counted : ∀ field ∈ kinds, own.lookup field.1 = fields.counted field.1 field.2) :
    own.Perm (fields.given.filter (counts kinds)) := by
  -- No key stands twice on either side, so it is enough to look at one member at a time.
  have ownUnique : (own.map Prod.fst).Nodup := listed.nodup distinct
  refine (List.perm_ext_iff_of_nodup (List.Nodup.of_map _ ownUnique)
    ((List.Nodup.of_map _ unique).filter _)).2 ?_
  rintro ⟨key, value⟩
  by_cases field : key ∈ kinds.map Prod.fst
  · obtain ⟨⟨_, kind⟩, inKinds, rfl⟩ := List.mem_map.1 field
    have found : kinds.lookup _ = some kind := (lookup_eq_some_iff_mem distinct).2 inKinds
    rw [List.mem_filter, ← lookup_eq_some_iff_mem unique, ← lookup_eq_some_iff_mem ownUnique,
      counted _ inKinds, Fields.counted, Option.filter_eq_some_iff, counts, found]
  · constructor
    · intro inOwn
      exact absurd (listed.mem inOwn) field
    · intro inGiven
      exact absurd (known _ (List.mem_of_mem_filter inGiven)) field

theorem extraMembers_perm {rest : List (String × Json)} {others : List (String × Content)}
    {extra : Dict Value} (unique : (rest.map Prod.fst).Nodup)
    (canonical : ∀ member ∈ rest, member.2.Canonical)
    (taken : membersOf content rest = .ok others) (read : decodeExtra others = .ok extra) :
    (extraMembers extra).Perm rest := by
  obtain ⟨content, contentRead, contentPerm⟩ :=
    membersOf_perm (.of_eq (List.map_id' rest).symm) JsonSource.content_ofJson
  obtain ⟨values, valuesRead, valuesPerm⟩ := membersOf_perm contentPerm Content.toValue_ofJson
  obtain rfl : content = others := Except.ok.inj (contentRead.symm.trans taken)
  rw [decodeExtra, valuesRead] at read
  cases read
  have keys : (values.map Prod.fst).Nodup := by
    rwa [(valuesPerm.map Prod.fst).nodup_iff, List.map_map]
  have placed := ((Dict.perm_ofList keys).trans valuesPerm).map
    fun entry : String × Value => (entry.1, entry.2.json)
  have same : (rest.map fun member => (member.1, Value.ofJson member.2)).map
      (fun entry => (entry.1, entry.2.json)) = rest := by
    have each : ∀ member ∈ rest, (member.1, (Value.ofJson member.2).json) = id member :=
      fun member present =>
        congrArg (Prod.mk member.1) (Json.canonical_eq_self member.2 (canonical member present))
    rw [List.map_map, Function.comp_def, List.map_congr_left each, List.map_id]
  rwa [same] at placed

/-- An effect is written as the object that it was read from, without the fields that held their
defaults. -/
theorem perm_of_opened {shape : RecordShape} {value : Json} {fields : Fields Json}
    {others : List (String × Content)} {extra : Dict Value} (canonical : value.Canonical)
    (opened : openRecord shape value = .ok (fields, others))
    (extraRead : decodeExtra others = .ok extra)
    (names : kinds.map Prod.fst = shape.fields) (distinct : shape.fields.Nodup)
    (listed : Listed own shape.fields)
    (counted : ∀ field ∈ kinds, own.lookup field.1 = fields.counted field.1 field.2) :
    ∃ members, value = .object members ∧
      (own ++ extraMembers extra).Perm (members.filter (counts kinds)) := by
  simp only [openRecord, bind_eq_ok_iff, pure_eq_ok_iff] at opened
  obtain ⟨members, listedMembers, ⟨known, rest⟩, parts, content, taken, same⟩ := opened
  cases same
  cases value with
  | object members =>
      cases listedMembers
      -- Data lists no key twice, so the fields and the other members come apart by their keys.
      have unique := Dict.nodup_keys_of_increasing canonical.1
      rw [Fields.separate_eq unique] at parts
      cases parts
      have filteredUnique (keeps : String × Json → Bool) :
          ((members.filter keeps).map Prod.fst).Nodup :=
        unique.sublist (List.filter_sublist.map _)
      have fieldsPerm : own.Perm
          ((members.filter fun member => member.1 ∈ shape.fields).filter (counts kinds)) := by
        refine perm_of_counted (names ▸ distinct) (names ▸ listed) (filteredUnique _) ?_ counted
        intro member present
        rw [names]
        simpa using (List.mem_filter.1 present).2
      have others : ∀ member ∈ members.filter (fun member => member.1 ∉ shape.fields),
          counts kinds member = true := by
        intro member present
        apply counts_of_unknown
        rw [names]
        simpa using (List.mem_filter.1 present).2
      have extraPerm : (extraMembers extra).Perm
          ((members.filter fun member => member.1 ∉ shape.fields).filter (counts kinds)) := by
        rw [List.filter_eq_self.2 others]
        refine extraMembers_perm (filteredUnique _) ?_ taken extraRead
        intro member present
        exact Json.canonicalMembers_iff.1 canonical.2 member (List.mem_of_mem_filter present)
      refine ⟨members, rfl, (fieldsPerm.append extraPerm).trans ?_⟩
      rw [← List.filter_append]
      simp only [decide_not]
      exact (List.filter_append_perm _ members).filter _
  | _ => cases listedMembers

/-! ### Effects -/

def Mutation.fieldKinds : List (String × FieldKind) :=
  [ ("patchStrategicMerge", .optional), ("patchesJson6902", .text), ("targets", .list),
    ("foreach", .list) ]

def Validation.fieldKinds : List (String × FieldKind) :=
  [ ("message", .text), ("pattern", .optional), ("anyPattern", .optional), ("deny", .optional),
    ("foreach", .list), ("podSecurity", .optional) ]

def Generation.fieldKinds : List (String × FieldKind) :=
  [ ("apiVersion", .text), ("kind", .text), ("name", .text), ("namespace", .text),
    ("synchronize", .flag), ("data", .optional), ("clone", .optional) ]

def ImageCheck.fieldKinds : List (String × FieldKind) :=
  [ ("imageReferences", .list), ("attestors", .list), ("attestations", .list),
    ("mutateDigest", .optional), ("verifyDigest", .optional) ]

theorem Mutation.perm_of_decode {value : Json} {effect : Mutation} (canonical : value.Canonical)
    (read : decode value = .ok effect) :
    ∃ members, value = .object members ∧
      (effect.fieldMembers ++ extraMembers effect.extra).Perm
        (members.filter (counts fieldKinds)) := by
  simp only [decode, bind_eq_ok_iff, pure_eq_ok_iff] at read
  obtain ⟨⟨fields, others⟩, opened, _, strategicMerge, _, jsonPatches, _, targets, _, forEach,
    _, extra, rfl⟩ := read
  have given := (canonical.openRecord opened).1
  refine perm_of_opened canonical opened extra rfl (by decide) (listed_fieldMembers _) ?_
  simp only [fieldKinds, List.forall_mem_cons]
  refine ⟨?_, ?_, ?_, ?_, List.forall_mem_nil _⟩
  · simpa [fieldMembers] using Fields.value_counted given strategicMerge
  · simpa [fieldMembers] using Fields.text_counted jsonPatches
  · simpa [fieldMembers] using Fields.values_counted given targets
  · simpa [fieldMembers] using Fields.values_counted given forEach

theorem Validation.perm_of_decode {value : Json} {effect : Validation} (canonical : value.Canonical)
    (read : decode value = .ok effect) :
    ∃ members, value = .object members ∧
      (effect.fieldMembers ++ extraMembers effect.extra).Perm
        (members.filter (counts fieldKinds)) := by
  simp only [decode, bind_eq_ok_iff, pure_eq_ok_iff] at read
  obtain ⟨⟨fields, others⟩, opened, _, message, _, pattern, _, anyPattern, _, deny, _, forEach,
    _, podSecurity, _, extra, rfl⟩ := read
  have given := (canonical.openRecord opened).1
  refine perm_of_opened canonical opened extra rfl (by decide) (listed_fieldMembers _) ?_
  simp only [fieldKinds, List.forall_mem_cons]
  refine ⟨?_, ?_, ?_, ?_, ?_, ?_, List.forall_mem_nil _⟩
  · simpa [fieldMembers] using Fields.text_counted message
  · simpa [fieldMembers] using Fields.value_counted given pattern
  · simpa [fieldMembers] using Fields.value_counted given anyPattern
  · simpa [fieldMembers] using Fields.value_counted given deny
  · simpa [fieldMembers] using Fields.values_counted given forEach
  · simpa [fieldMembers] using Fields.value_counted given podSecurity

theorem Generation.perm_of_decode {value : Json} {effect : Generation} (canonical : value.Canonical)
    (read : decode value = .ok effect) :
    ∃ members, value = .object members ∧
      (effect.fieldMembers ++ extraMembers effect.extra).Perm
        (members.filter (counts fieldKinds)) := by
  simp only [decode, bind_eq_ok_iff, pure_eq_ok_iff] at read
  obtain ⟨⟨fields, others⟩, opened, _, apiVersion, _, kind, _, name, _, namespaceName, _,
    synchronize, _, data, _, clone, _, extra, rfl⟩ := read
  have given := (canonical.openRecord opened).1
  refine perm_of_opened canonical opened extra rfl (by decide) (listed_fieldMembers _) ?_
  simp only [fieldKinds, List.forall_mem_cons]
  refine ⟨?_, ?_, ?_, ?_, ?_, ?_, ?_, List.forall_mem_nil _⟩
  · simpa [fieldMembers] using Fields.text_counted apiVersion
  · simpa [fieldMembers] using Fields.text_counted kind
  · simpa [fieldMembers] using Fields.text_counted name
  · simpa [fieldMembers] using Fields.text_counted namespaceName
  · simpa [fieldMembers] using Fields.flag_counted synchronize
  · simpa [fieldMembers] using Fields.value_counted given data
  · simpa [fieldMembers] using Fields.value_counted given clone

theorem ImageCheck.perm_of_decode {value : Json} {effect : ImageCheck} (canonical : value.Canonical)
    (read : decode value = .ok effect) :
    ∃ members, value = .object members ∧
      (effect.fieldMembers ++ extraMembers effect.extra).Perm
        (members.filter (counts fieldKinds)) := by
  simp only [decode, bind_eq_ok_iff, pure_eq_ok_iff] at read
  obtain ⟨⟨fields, others⟩, opened, _, references, _, attestors, _, attestations, _,
    mutateDigest, _, verifyDigest, _, extra, rfl⟩ := read
  have given := (canonical.openRecord opened).1
  refine perm_of_opened canonical opened extra rfl (by decide) (listed_fieldMembers _) ?_
  simp only [fieldKinds, List.forall_mem_cons]
  refine ⟨?_, ?_, ?_, ?_, ?_, List.forall_mem_nil _⟩
  · simpa [fieldMembers] using Fields.strings_counted references
  · simpa [fieldMembers] using Fields.values_counted given attestors
  · simpa [fieldMembers] using Fields.values_counted given attestations
  · simpa [fieldMembers] using Fields.optionalFlag_counted mutateDigest
  · simpa [fieldMembers] using Fields.optionalFlag_counted verifyDigest

/-- Every effect that is decoded from data comes from an object, and is encoded to the members of it
that count. It is empty if none of them does, and never beside a key that is no field: a rule that
carries it then declares it. -/
def UndoesDecoding {ε : Type} (kinds : List (String × FieldKind)) (decode : Json → Decoded ε)
    (encode : ε → Json) (isEmpty : ε → Bool) (kind : Kind) (carries : Rule → ε → Prop) : Prop :=
  ∀ (document : Value) (effect : ε), decode document.json = .ok effect →
    ∃ members, document.json = .object members ∧
      (encode effect).canonical = .object (members.filter (counts kinds)) ∧
      (isEmpty effect = true ↔ ∀ member ∈ members, counts kinds member = false) ∧
      ∀ member ∈ members, member.1 ∉ kinds.map Prod.fst →
        isEmpty effect = false ∧ ∀ rule, carries rule effect → rule.Counts kind

theorem UndoesDecoding.of {ε : Type} {decode : Json → Decoded ε} {encode : ε → Json}
    {isEmpty : ε → Bool} {written : ε → List (String × Json)}
    (encoded : ∀ effect, encode effect = .object (written effect))
    (empty : ∀ {effect}, encode effect = .object [] ↔ isEmpty effect = true)
    (perm : ∀ {value : Json} {effect : ε}, value.Canonical → decode value = .ok effect →
      ∃ members, value = .object members ∧
        (written effect).Perm (members.filter (counts kinds)))
    {kind : Kind} {carries : Rule → ε → Prop}
    (declares : ∀ {rule effect}, carries rule effect → isEmpty effect = false →
      rule.declares kind = true) :
    UndoesDecoding kinds decode encode isEmpty kind carries := by
  intro document effect read
  obtain ⟨members, object, same⟩ := perm document.isCanonical read
  have canonical : (Json.object members).Canonical := object ▸ document.isCanonical
  have counting : (Json.object (members.filter (counts kinds))).Canonical := by
    refine ⟨canonical.1.filter _, Json.canonicalMembers_iff.2 fun member present => ?_⟩
    exact Json.canonicalMembers_iff.1 canonical.2 member (List.mem_of_mem_filter present)
  have none : isEmpty effect = true ↔ ∀ member ∈ members, counts kinds member = false := by
    have writtenNone : written effect = [] ↔ members.filter (counts kinds) = [] :=
      ⟨fun nothing => List.nil_perm.1 (nothing ▸ same),
        fun nothing => List.perm_nil.1 (nothing ▸ same)⟩
    rw [← empty, encoded, Json.object.injEq, writtenNone, List.filter_eq_nil_iff]
    simp only [Bool.not_eq_true]
  refine ⟨members, object, ?_, none, ?_⟩
  · rw [encoded]
    exact Json.canonical_object_of_perm same counting
  · intro member present unknown
    have notEmpty : isEmpty effect = false := by
      rw [← Bool.not_eq_true, none]
      intro nothing
      have kept := counts_of_unknown unknown
      rw [nothing member present] at kept
      cases kept
    exact ⟨notEmpty, fun rule carried => Rule.counts_of_declares (declares carried notEmpty)⟩

/-- For every effect, encoding undoes decoding up to the fields that held their defaults, the effect
is empty exactly if its object held nothing else, and a key that is no field makes a rule declare
it. -/
theorem encode_undoes_decode :
    UndoesDecoding Mutation.fieldKinds Mutation.decode Mutation.encode Mutation.isEmpty .mutate
        (fun rule effect => rule.mutate = effect) ∧
      UndoesDecoding Validation.fieldKinds Validation.decode Validation.encode
        Validation.isEmpty .validate (fun rule effect => rule.validate = effect) ∧
      UndoesDecoding Generation.fieldKinds Generation.decode Generation.encode
        Generation.isEmpty .generate (fun rule effect => rule.generate = effect) ∧
      UndoesDecoding ImageCheck.fieldKinds ImageCheck.decode ImageCheck.encode
        ImageCheck.isEmpty .verifyImages (fun rule effect => effect ∈ rule.verifyImages) := by
  refine ⟨.of Mutation.encode_eq Mutation.encode_eq_empty_iff Mutation.perm_of_decode ?_,
    .of Validation.encode_eq Validation.encode_eq_empty_iff Validation.perm_of_decode ?_,
    .of Generation.encode_eq Generation.encode_eq_empty_iff Generation.perm_of_decode ?_,
    .of ImageCheck.encode_eq ImageCheck.encode_eq_empty_iff ImageCheck.perm_of_decode ?_⟩
  · rintro rule _ rfl notEmpty
    simp [Rule.declares, Rule.declaresMutate, notEmpty]
  · rintro rule _ rfl notEmpty
    simp [Rule.declares, Rule.declaresValidate, notEmpty]
  · rintro rule _ rfl notEmpty
    simp [Rule.declares, Rule.declaresGenerate, notEmpty]
  · intro rule check member _
    have given : rule.verifyImages ≠ [] := List.ne_nil_of_mem member
    simpa [Rule.declares, Rule.declaresVerifyImages] using given

theorem encode_undoes_decode_manifests :
    let members : List (String × Json) :=
      [("foreach", .list []), ("manifests", .null), ("message", .text "m"), ("pattern", .null)]
    let effect : Validation :=
      { Validation.empty with message := "m", extra := .ofList [("manifests", .ofJson .null)] }
    let rule : Rule := { Rule.ofName "sigstore" with validate := effect }
    Validation.decode (Value.ofJson (.object members)).json = .ok effect ∧
      ("manifests", Json.null) ∈ members ∧ "manifests" ∉ Validation.fieldKinds.map Prod.fst ∧
      effect.encode.canonical = .object [("manifests", .null), ("message", .text "m")] ∧
      effect.isEmpty = false ∧ rule.declaresValidate = true ∧ rule.declaredOperations = 1 ∧
      rule.checkOperation (.ofField "spec") = [] := by
  intro members effect rule
  have read : Validation.decode (Value.ofJson (.object members)).json = .ok effect := rfl
  have member : ("manifests", Json.null) ∈ members := .tail _ (.head _)
  have unknown : "manifests" ∉ Validation.fieldKinds.map Prod.fst := by decide
  obtain ⟨found, object, encoded, -, notEmpty⟩ := encode_undoes_decode.2.1 _ effect read
  obtain rfl : members = found := Json.object.inj object
  obtain ⟨notEmpty, carried⟩ := notEmpty _ member unknown
  have counts := carried rule rfl
  have alone : ∀ other, other ≠ .validate → rule.declares other = false := by
    rintro (_ | _ | _ | _) other
    · rfl
    · exact absurd rfl other
    · rfl
    · rfl
  exact ⟨read, member, unknown, encoded, notEmpty, counts.declared, counts.counted,
    (counts.passes _).2 alone⟩

end Effect

end AdmissionPolicy
