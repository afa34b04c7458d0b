import Mathlib.Data.List.Perm.Basic
import AdmissionPolicy.Proofs.Codec.Layout
import AdmissionPolicy.Proofs.Codec.Members

/-!
Values read back from the documents that they were written to. A document is a JSON value in some
layout; it can also stand among the content of another document, where it was taken down before.
-/

namespace AdmissionPolicy

theorem ok_bind {α β : Type} (value : α) (next : α → Decoded β) :
    ((.ok value : Decoded α) >>= next) = next value :=
  rfl

theorem mapM_map_eq_ok {α β γ : Type} {decode : β → Decoded γ} {written : α → β} {meaning : α → γ}
    {items : List α} (each : ∀ item ∈ items, decode (written item) = .ok (meaning item)) :
    (items.map written).mapM decode = .ok (items.map meaning) := by
  induction items with
  | nil => rfl
  | cons item rest ih =>
      rw [List.forall_mem_cons] at each
      rw [List.map_cons, List.mapM_cons, each.1, ok_bind, ih each.2]
      rfl

theorem mapM_perm {α β γ : Type} {decode : β → Decoded γ} {written : α → β} {meaning : α → γ}
    {items : List α} {given : List β} (same : given.Perm (items.map written))
    (each : ∀ item ∈ items, decode (written item) = .ok (meaning item)) :
    ∃ read, given.mapM decode = .ok read ∧ read.Perm (items.map meaning) := by
  have moved :
      Relation.Comp (fun given moved => given = moved.map written) List.Perm given items := by
    rw [List.eq_map_comp_perm]
    exact same
  obtain ⟨moved, rfl, order⟩ := moved
  exact ⟨moved.map meaning, mapM_map_eq_ok fun item member => each item (order.subset member),
    order.map meaning⟩

theorem Source.membersOf_perm {α β γ : Type} {decode : β → Decoded γ} {written : α → β}
    {meaning : α → γ} {entries : List (String × α)} {given : List (String × β)}
    (same : given.Perm (entries.map fun entry => (entry.1, written entry.2)))
    (each : ∀ value, decode (written value) = .ok (meaning value)) :
    ∃ read, membersOf decode given = .ok read ∧
      read.Perm (entries.map fun entry => (entry.1, meaning entry.2)) := by
  refine mapM_perm same fun entry _ => ?_
  simp only [each]
  rfl

/-! ### Content that JSON values stand for -/

namespace Content

theorem ofItems_eq_map (items : List Json) : ofItems items = items.map ofJson := by
  induction items with
  | nil => rfl
  | cons item rest ih => rw [ofItems, ih, List.map_cons]

theorem ofMembers_eq_map (members : List (String × Json)) :
    ofMembers members = members.map fun member => (.text member.1, ofJson member.2) := by
  induction members with
  | nil => rfl
  | cons head rest ih => rw [ofMembers, ih, List.map_cons]

mutual

theorem toJson_ofJson : (value : Json) → (ofJson value).toJson = .ok value
  | .null | .bool _ | .number _ | .text _ => rfl
  | .list items => by
      rw [ofJson, toJson, toItems_ofItems items]
      rfl
  | .object members => by
      rw [ofJson, toJson, toMembers_ofMembers members]
      rfl

theorem toItems_ofItems : (items : List Json) → toItems (ofItems items) = .ok items
  | [] => rfl
  | item :: rest => by
      rw [ofItems, toItems, toJson_ofJson item, toItems_ofItems rest]
      rfl

theorem toMembers_ofMembers :
    (members : List (String × Json)) → toMembers (ofMembers members) = .ok members
  | [] => rfl
  | (_, value) :: rest => by
      rw [ofMembers, toMembers, toJson_ofJson value, toMembers_ofMembers rest]
      rfl

end

theorem toValue_ofJson (value : Json) : (ofJson value).toValue = .ok (.ofJson value) := by
  rw [toValue, toJson_ofJson]
  rfl

end Content

/-! ### Documents in which JSON values can stand -/

/-- Documents among which every JSON value has one that answers as the value does. -/
class JsonSource (σ : Type) [Source σ] where
  ofJson : Json → σ
  text_ofJson (wanted : Wanted) (value : String) :
    Source.text wanted (ofJson (.text value)) = .ok value
  flag_ofJson (value : Bool) : Source.flag (ofJson (.bool value)) = .ok value
  present_ofJson {value : Json} (given : value ≠ .null) :
    Source.present (ofJson value) = .ok (some (ofJson value))
  items_ofJson (items : List Json) : Source.items (ofJson (.list items)) = .ok (items.map ofJson)
  members_ofJson (wanted : Wanted) (members : List (String × Json)) :
    Source.members wanted (ofJson (.object members)) =
      .ok (members.map fun member => (member.1, ofJson member.2))
  record_ofJson {shape : RecordShape} {members : List (String × Json)}
    {own others : List (String × σ)}
    (parts : Fields.separate shape.fields (members.map fun member => (member.1, ofJson member.2)) =
      .ok (own, others)) :
    Source.record shape (ofJson (.object members)) = .ok (.named own)
  choice_ofJson (choices : List String) (name : String) :
    Source.choice choices (ofJson (.text name)) = .ok (name, none)
  verbatim_ofJson (value : Json) : Source.verbatim (ofJson value) = .ok (.ofJson value)
  content_ofJson (value : Json) : Source.content (ofJson value) = .ok (.ofJson value)

instance : JsonSource Json where
  ofJson value := value
  text_ofJson _ _ := rfl
  flag_ofJson _ := rfl
  present_ofJson {value} given := by
    cases value with
    | null => exact absurd rfl given
    | _ => rfl
  items_ofJson items := by
    rw [List.map_id']
    rfl
  members_ofJson _ members := by
    rw [List.map_id']
    rfl
  record_ofJson {shape members own others} parts := by
    rw [List.map_id'] at parts
    change Json.record shape (.object members) = _
    rw [Json.record, parts]
    rfl
  choice_ofJson _ _ := rfl
  verbatim_ofJson _ := rfl
  content_ofJson _ := rfl

instance : JsonSource Content where
  ofJson := Content.ofJson
  text_ofJson _ _ := rfl
  flag_ofJson _ := rfl
  present_ofJson {value} given := by
    cases value with
    | null => exact absurd rfl given
    | _ => rfl
  items_ofJson items := by
    rw [← Content.ofItems_eq_map]
    rfl
  members_ofJson _ members := by
    rw [Content.ofJson, Content.ofMembers_eq_map]
    exact mapM_map_eq_ok fun _ _ => rfl
  record_ofJson {shape members own others} parts := by
    -- Keys that are texts are names already, so no field is looked up by its number.
    have keyed : (members.map fun member => (Content.text member.1, Content.ofJson member.2)).mapM
        (fun member => do return (← Content.keyName? shape.fields member.1, member.2)) =
          (.ok (members.map fun member => (some member.1, Content.ofJson member.2)) :
            Decoded (List (Option String × Content))) :=
      mapM_map_eq_ok fun _ _ => rfl
    change Content.record shape (Content.ofJson (.object members)) = _
    have named : (members.map fun member => (some member.1, Content.ofJson member.2)).filterMap
        (fun member => member.1.map fun key => (key, member.2)) =
          members.map fun member => (member.1, Content.ofJson member.2) := by
      rw [List.filterMap_map]
      exact congrFun List.filterMap_eq_map members
    rw [Content.ofJson, Content.ofMembers_eq_map, Content.record, keyed, ok_bind, named, parts]
    rfl
  choice_ofJson _ _ := rfl
  verbatim_ofJson := Content.toValue_ofJson
  content_ofJson _ := rfl

/-! ### Documents of written values -/

theorem Json.nodup_keys_ofTextDict (dict : Dict String) :
    ((dict.entries.map fun entry => (entry.1, Json.text entry.2)).map Prod.fst).Nodup := by
  rw [List.map_map]
  exact Dict.nodup_keys_of_increasing dict.ordered

variable {σ α : Type} [Source σ] [JsonSource σ] (layout : Json.Layout)

namespace Json.Layout

def document (value : Json) : σ :=
  JsonSource.ofJson (layout.place value)

def documents (members : List (String × Json)) : List (String × σ) :=
  members.map fun member => (member.1, layout.document member.2)

theorem document_object {members : List (String × Json)}
    (unique : (members.map Prod.fst).Nodup) :
    ∃ moved, layout.document (.object members) = (JsonSource.ofJson (.object moved) : σ) ∧
      (moved.map fun member => (member.1, (JsonSource.ofJson member.2 : σ))).Perm
        (layout.documents members) := by
  obtain ⟨moved, same, placed⟩ := layout.place_object unique
  refine ⟨_, congrArg JsonSource.ofJson placed, ?_⟩
  rw [List.map_map]
  exact same.map _

theorem place_object_ne_null {members : List (String × Json)}
    (unique : (members.map Prod.fst).Nodup) : layout.place (.object members) ≠ .null := by
  obtain ⟨moved, _, placed⟩ := layout.place_object unique
  rw [placed]
  exact Json.noConfusion

theorem place_ofTextDict_ne_null (dict : Dict String) :
    layout.place (.ofTextDict dict) ≠ .null :=
  layout.place_object_ne_null (nodup_keys_ofTextDict dict)

end Json.Layout

open Json (Layout)

namespace Source

theorem text_document (wanted : Wanted) (value : String) :
    text wanted (layout.document (.text value) : σ) = .ok value := by
  rw [Layout.document, layout.place_text, JsonSource.text_ofJson]

theorem string_document (value : String) :
    string (layout.document (.text value) : σ) = .ok value :=
  text_document layout .text value

theorem flag_document (value : Bool) : flag (layout.document (.bool value) : σ) = .ok value := by
  rw [Layout.document, layout.place_bool]
  exact JsonSource.flag_ofJson _

theorem verbatim_document (value : Value) :
    verbatim (layout.document value.json : σ) = .ok value := by
  rw [Layout.document, layout.place_value, JsonSource.verbatim_ofJson, Value.ofJson_json]

theorem items_document (values : List Json) :
    items (layout.document (.list values) : σ) = .ok (values.map layout.document) := by
  rw [Layout.document, layout.place_list, JsonSource.items_ofJson, List.map_map]
  rfl

theorem members_document (wanted : Wanted) {listed : List (String × Json)}
    (unique : (listed.map Prod.fst).Nodup) :
    ∃ given, members wanted (layout.document (.object listed) : σ) = .ok given ∧
      given.Perm (layout.documents listed) := by
  obtain ⟨moved, placed, same⟩ := layout.document_object (σ := σ) unique
  exact ⟨_, placed ▸ JsonSource.members_ofJson wanted moved, same⟩

theorem listOf_document {decode : σ → Decoded α} {encode : α → Json} {items : List α}
    (each : ∀ item ∈ items, decode (layout.document (encode item)) = .ok item) :
    listOf decode (layout.document (.list (items.map encode))) = .ok items := by
  rw [listOf, items_document, ok_bind, List.map_map]
  exact (mapM_map_eq_ok each).trans (by rw [List.map_id'])

theorem stringMap_document (dict : Dict String) :
    stringMap (layout.document (.ofTextDict dict) : σ) = .ok dict := by
  obtain ⟨given, members, same⟩ :=
    members_document (σ := σ) layout .map (Json.nodup_keys_ofTextDict dict)
  rw [Layout.documents, List.map_map] at same
  obtain ⟨read, texts, order⟩ := membersOf_perm same (string_document layout)
  rw [List.map_id'] at order
  rw [stringMap, Json.ofTextDict, members, ok_bind, texts]
  exact congrArg Except.ok (Dict.ofList_of_perm order)

end Source

/-! ### Records in documents -/

/-- The fields are those of the members, each with its document. -/
def Fields.Hold (fields : Fields σ) (own : List (String × Json)) : Prop :=
  ∀ name, fields.given.lookup name = (own.lookup name).map layout.document

theorem Fields.hold_named {given : List (String × σ)} {own : List (String × Json)}
    (same : given.Perm (layout.documents own)) (unique : (own.map Prod.fst).Nodup) :
    (Fields.named given).Hold layout own := by
  intro name
  have keys : ((layout.documents own : List (String × σ)).map Prod.fst).Nodup := by
    rwa [Layout.documents, List.map_map]
  exact (lookup_perm same keys).trans (lookup_map layout.document own)

theorem Fields.separate_documents {names : List String} {given : List (String × σ)}
    {listed own others : List (String × Json)} (same : given.Perm (layout.documents listed))
    (parted : Parted names listed own others) :
    ∃ kept rest, separate names given = .ok (kept, rest) ∧
      (Fields.named kept).Hold layout own ∧ rest.Perm (layout.documents others) := by
  obtain ⟨kept, rest, parts, known, unknown⟩ := (parted.change layout.document same).separate
  exact ⟨kept, rest, parts, hold_named layout known parted.ownUnique, unknown⟩

theorem Source.record_document (shape : RecordShape) {own : List (String × Json)}
    (listed : Listed own shape.fields) (distinct : shape.fields.Nodup) :
    ∃ fields, record shape (layout.document (.object own) : σ) = .ok fields ∧
      fields.Hold layout own := by
  have parted := listed.alone distinct
  obtain ⟨moved, placed, same⟩ := layout.document_object (σ := σ) parted.ownUnique
  obtain ⟨kept, rest, parts, held, _⟩ := Fields.separate_documents layout same parted
  exact ⟨.named kept, placed ▸ JsonSource.record_ofJson parts, held⟩

theorem Source.openRecord_document (shape : RecordShape) {listed own others : List (String × Json)}
    (parted : Parted shape.fields listed own others) :
    ∃ fields rest, openRecord shape (layout.document (.object listed) : σ) = .ok (fields, rest) ∧
      fields.Hold layout own ∧ rest.Perm (layout.documents others) := by
  obtain ⟨given, members, same⟩ :=
    members_document (σ := σ) layout (.record shape.name) parted.membersUnique
  obtain ⟨kept, rest, parts, held, unknown⟩ := Fields.separate_documents layout same parted
  obtain ⟨content, taken, order⟩ :=
    membersOf_perm unknown fun value => JsonSource.content_ofJson (layout.place value)
  refine ⟨.named kept, content, ?_, held, order⟩
  simp only [openRecord, members, ok_bind, parts, taken]
  rfl

namespace Fields.Hold

variable {layout} {fields : Fields σ} {own : List (String × Json)} {name : String}

theorem required (held : fields.Hold layout own) {value : Json} {part : α} {decode : σ → Decoded α}
    (found : own.lookup name = some value) (read : decode (layout.document value) = .ok part) :
    fields.required name decode = .ok part := by
  rw [Fields.required, held name, found]
  exact read

theorem withDefault (held : fields.Hold layout own) (given : Bool) {value : Json}
    {part default : α} {decode : σ → Decoded α}
    (found : own.lookup name = if given then some value else none)
    (absent : given = false → default = part)
    (read : decode (layout.document value) = .ok part) :
    fields.withDefault name default decode = .ok part := by
  rw [Fields.withDefault, held name, found]
  cases given with
  | false => exact congrArg Except.ok (absent rfl)
  | true => exact read

theorem always (held : fields.Hold layout own) {value : Json} {part default : α}
    {decode : σ → Decoded α} (found : own.lookup name = some value)
    (read : decode (layout.document value) = .ok part) :
    fields.withDefault name default decode = .ok part :=
  held.withDefault true found (fun left_out => absurd left_out (by decide)) read

theorem part (held : fields.Hold layout own) {isEmpty : Bool} {value : Json} {part default : α}
    {decode : σ → Decoded α} (absent : isEmpty = true → part = default)
    (found : own.lookup name = if !isEmpty then some value else none)
    (read : decode (layout.document value) = .ok part) :
    fields.withDefault name default decode = .ok part := by
  refine held.withDefault (!isEmpty) found (fun left_out => ?_) read
  exact (absent (by simpa using left_out)).symm

theorem text (held : fields.Hold layout own) {value : String}
    (found : own.lookup name = if !value.isEmpty then some (.text value) else none) :
    fields.withDefault name "" Source.string = .ok value :=
  held.part String.isEmpty_iff.1 found (Source.string_document layout value)

theorem list (held : fields.Hold layout own) {items : List α} {encode : α → Json}
    {decode : σ → Decoded α}
    (found : own.lookup name = if !items.isEmpty then some (.list (items.map encode)) else none)
    (each : ∀ item ∈ items, decode (layout.document (encode item)) = .ok item) :
    fields.withDefault name [] (Source.listOf decode) = .ok items :=
  held.part List.isEmpty_iff.1 found (Source.listOf_document layout each)

theorem optional (held : fields.Hold layout own) {part : Option α} {encode : α → Json}
    {decode : σ → Decoded α} (found : own.lookup name = part.map encode)
    (given : ∀ value, part = some value → layout.place (encode value) ≠ .null)
    (read : ∀ value, part = some value → decode (layout.document (encode value)) = .ok value) :
    fields.optional name decode = .ok part := by
  rw [Fields.optional, held name, found]
  cases part with
  | none => rfl
  | some value =>
      have present := JsonSource.present_ofJson (σ := σ) (given value rfl)
      simp only [Option.map_some, Layout.document] at present read ⊢
      rw [present, ok_bind]
      simp only [read value rfl]
      rfl

theorem optionalText (held : fields.Hold layout own) {part : Option α} (written : α → String)
    {decode : σ → Decoded α} (found : own.lookup name = part.map fun value => .text (written value))
    (read : ∀ value, part = some value →
      decode (layout.document (.text (written value))) = .ok value) :
    fields.optional name decode = .ok part := by
  refine held.optional found (fun value _ => ?_) read
  rw [layout.place_text]
  exact Json.noConfusion

theorem optionalString (held : fields.Hold layout own) {part : Option String}
    (found : own.lookup name = part.map .text) :
    fields.optional name Source.string = .ok part :=
  held.optionalText id found fun value _ => Source.string_document layout value

end Fields.Hold

end AdmissionPolicy
