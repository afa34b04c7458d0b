import AdmissionPolicy.Proofs.Codec.Rule

/-!
What is decoded from a JSON value is unambiguous: reading leaves null values out, and keys of an
effect that are fields of it never come to stand beside them.
-/

namespace AdmissionPolicy

open Source

theorem bind_eq_ok_iff {α β : Type} {read : Decoded α} {next : α → Decoded β} {result : β} :
    (read >>= next) = .ok result ↔ ∃ value, read = .ok value ∧ next value = .ok result := by
  cases read with
  | error error => simp [bind, Except.bind]
  | ok value => simp [ok_bind]

theorem pure_eq_ok_iff {α : Type} {value result : α} :
    (pure value : Decoded α) = .ok result ↔ value = result := by
  simp [pure, Except.pure]

theorem mem_of_mapM_eq_ok {α β : Type} {decode : α → Decoded β} {items : List α} {read : List β}
    (decoded : items.mapM decode = .ok read) {part : β} (member : part ∈ read) :
    ∃ item ∈ items, decode item = .ok part := by
  induction items generalizing read with
  | nil =>
      rw [List.mapM_nil, pure_eq_ok_iff] at decoded
      subst decoded
      exact absurd member List.not_mem_nil
  | cons item rest ih =>
      simp only [List.mapM_cons, bind_eq_ok_iff, pure_eq_ok_iff] at decoded
      obtain ⟨first, firstRead, later, laterRead, rfl⟩ := decoded
      rcases List.mem_cons.1 member with rfl | inLater
      · exact ⟨item, List.mem_cons_self, firstRead⟩
      · obtain ⟨found, present, foundRead⟩ := ih laterRead inLater
        exact ⟨found, List.mem_cons_of_mem _ present, foundRead⟩

theorem map_of_mapM_eq_ok {α β : Type} {decode : α → Decoded β} {encode : β → α} {parts : List α}
    {items : List β} (decoded : parts.mapM decode = .ok items)
    (back : ∀ part ∈ parts, ∀ item, decode part = .ok item → encode item = part) :
    items.map encode = parts := by
  induction parts generalizing items with
  | nil =>
      rw [List.mapM_nil, pure_eq_ok_iff] at decoded
      subst decoded
      rfl
  | cons part parts ih =>
      simp only [List.mapM_cons, bind_eq_ok_iff, pure_eq_ok_iff] at decoded
      obtain ⟨first, firstRead, later, laterRead, rfl⟩ := decoded
      rw [List.forall_mem_cons] at back
      rw [List.map_cons, back.1 first firstRead, ih laterRead back.2]

theorem Fields.separate_eq_ok {α : Type} {names : List String}
    {members own others : List (String × α)} (parts : separate names members = .ok (own, others)) :
    own ⊆ members ∧ ∀ member ∈ others, member ∈ members ∧ member.1 ∉ names := by
  induction members generalizing own others with
  | nil =>
      cases parts
      simp
  | cons head rest ih =>
      obtain ⟨key, value⟩ := head
      simp only [separate, bind_eq_ok_iff] at parts
      obtain ⟨⟨kept, passed⟩, before, parts⟩ := parts
      obtain ⟨known, unknown⟩ := ih before
      split at parts
      · split at parts
        · cases parts
        · cases parts
          exact ⟨List.cons_subset_cons _ known,
            fun member present => ⟨List.mem_cons_of_mem _ (unknown member present).1,
              (unknown member present).2⟩⟩
      · rename_i other
        cases parts
        refine ⟨List.subset_cons_of_subset _ known, ?_⟩
        rw [List.forall_mem_cons]
        exact ⟨⟨List.mem_cons_self, other⟩,
          fun member present => ⟨List.mem_cons_of_mem _ (unknown member present).1,
            (unknown member present).2⟩⟩

/-! ### Fields of canonical values -/

theorem Json.canonicalItems_iff {items : List Json} :
    CanonicalItems items ↔ ∀ item ∈ items, Canonical item := by
  induction items with
  | nil => simp [CanonicalItems]
  | cons item rest ih => simp only [CanonicalItems, ih, List.forall_mem_cons]

def Fields.Canonical (fields : Fields Json) : Prop :=
  ∀ field ∈ fields.given, field.2.Canonical

theorem Json.Canonical.fields {shape : RecordShape} {value : Json} {fields : Fields Json}
    (canonical : value.Canonical) (read : Source.record shape value = .ok fields) :
    fields.Canonical := by
  change Json.record shape value = .ok fields at read
  cases value with
  | object members =>
      simp only [Json.record, bind_eq_ok_iff, pure_eq_ok_iff] at read
      obtain ⟨⟨own, others⟩, parts, rfl⟩ := read
      intro field present
      exact canonicalMembers_iff.1 canonical.2 field ((Fields.separate_eq_ok parts).1 present)
  | list items =>
      simp only [Json.record] at read
      split at read
      · cases read
      · cases read
        intro field present
        exact canonicalItems_iff.1 canonical field.2 (List.of_mem_zip present).2
  | _ => cases read

theorem Json.Canonical.openRecord {shape : RecordShape} {value : Json} {fields : Fields Json}
    {others : List (String × Content)} (canonical : value.Canonical)
    (read : Source.openRecord shape value = .ok (fields, others)) :
    fields.Canonical ∧ ∀ member ∈ others, member.1 ∉ shape.fields := by
  simp only [Source.openRecord, bind_eq_ok_iff, pure_eq_ok_iff] at read
  obtain ⟨members, listed, ⟨own, rest⟩, parts, taken, content, same⟩ := read
  cases same
  obtain ⟨known, unknown⟩ := Fields.separate_eq_ok parts
  constructor
  · intro field present
    cases value with
    | object members =>
        cases listed
        exact canonicalMembers_iff.1 canonical.2 field (known present)
    | _ => cases listed
  · intro member present
    obtain ⟨item, inRest, itemRead⟩ := mem_of_mapM_eq_ok content present
    simp only [bind_eq_ok_iff, pure_eq_ok_iff] at itemRead
    obtain ⟨_, _, rfl⟩ := itemRead
    exact (unknown item inRest).2

theorem notNull_none : NotNull none := by
  intro value held
  cases held

theorem beside_empty (shape : RecordShape) : Beside .empty shape := by
  intro key kept
  cases kept

theorem decodeExtra_beside {shape : RecordShape} {others : List (String × Content)}
    {extra : Dict Value} (read : decodeExtra others = .ok extra)
    (unknown : ∀ member ∈ others, member.1 ∉ shape.fields) : Beside extra shape := by
  simp only [decodeExtra, bind_eq_ok_iff, pure_eq_ok_iff] at read
  obtain ⟨entries, values, rfl⟩ := read
  intro key kept
  obtain ⟨entry, present, rfl⟩ := List.mem_map.1 kept
  obtain ⟨member, inOthers, memberRead⟩ := mem_of_mapM_eq_ok values (Dict.mem_ofList present)
  simp only [bind_eq_ok_iff, pure_eq_ok_iff] at memberRead
  obtain ⟨_, _, rfl⟩ := memberRead
  exact unknown member inOthers

namespace Fields.Canonical

variable {fields : Fields Json} {name : String}

theorem lookup (canonical : fields.Canonical) {value : Json}
    (found : fields.given.lookup name = some value) : value.Canonical := by
  obtain ⟨before, behind, split, _⟩ := List.lookup_eq_some_iff.1 found
  refine canonical (name, value) ?_
  rw [split]
  exact List.mem_append_right _ List.mem_cons_self

theorem notNull (canonical : fields.Canonical) {part : Option Value}
    (read : fields.optional name verbatim = .ok part) : NotNull part := by
  simp only [Fields.optional] at read
  split at read
  · cases read
    exact notNull_none
  · rename_i value found
    by_cases nothing : value = .null
    · subst nothing
      cases read
      exact notNull_none
    · have present : Source.present value = .ok (some value) :=
        JsonSource.present_ofJson (σ := Json) nothing
      rw [present, ok_bind] at read
      cases read
      intro held stands
      cases stands
      -- A number that is not finite would be kept as null; a canonical value is kept as it stands.
      have same := Json.canonical_eq_self value (canonical.lookup found)
      change value.canonical ≠ .null
      rwa [same]

theorem part (canonical : fields.Canonical) {α : Type} (holds : α → Prop)
    {part default : α} {decode : Json → Decoded α} (absent : holds default)
    (given : ∀ value : Json, value.Canonical → decode value = .ok part → holds part)
    (read : fields.withDefault name default decode = .ok part) : holds part := by
  simp only [Fields.withDefault] at read
  split at read
  · rename_i value found
    exact given value (canonical.lookup found) read
  · cases read
    exact absent

end Fields.Canonical

/-! ### Effects and rules -/

namespace Effect

variable {value : Json}

theorem Mutation.unambiguous_empty : Mutation.empty.Unambiguous :=
  ⟨notNull_none, beside_empty _⟩

theorem Mutation.decode_unambiguous {effect : Mutation} (canonical : value.Canonical)
    (read : decode value = .ok effect) : effect.Unambiguous := by
  simp only [decode, bind_eq_ok_iff, pure_eq_ok_iff] at read
  obtain ⟨⟨fields, others⟩, opened, strategicMerge, strategicMergeRead, _, _, _, _, _, _, extra,
    extraRead, rfl⟩ := read
  obtain ⟨given, unknown⟩ := canonical.openRecord opened
  exact ⟨given.notNull strategicMergeRead, decodeExtra_beside extraRead unknown⟩

theorem Validation.unambiguous_empty : Validation.empty.Unambiguous :=
  ⟨notNull_none, notNull_none, notNull_none, notNull_none, beside_empty _⟩

theorem Validation.decode_unambiguous {effect : Validation} (canonical : value.Canonical)
    (read : decode value = .ok effect) : effect.Unambiguous := by
  simp only [decode, bind_eq_ok_iff, pure_eq_ok_iff] at read
  obtain ⟨⟨fields, others⟩, opened, _, _, pattern, patternRead, anyPattern, anyPatternRead, deny,
    denyRead, _, _, podSecurity, podSecurityRead, extra, extraRead, rfl⟩ := read
  obtain ⟨given, unknown⟩ := canonical.openRecord opened
  exact ⟨given.notNull patternRead, given.notNull anyPatternRead, given.notNull denyRead,
    given.notNull podSecurityRead, decodeExtra_beside extraRead unknown⟩

theorem Generation.unambiguous_empty : Generation.empty.Unambiguous :=
  ⟨notNull_none, notNull_none, beside_empty _⟩

theorem Generation.decode_unambiguous {effect : Generation} (canonical : value.Canonical)
    (read : decode value = .ok effect) : effect.Unambiguous := by
  simp only [decode, bind_eq_ok_iff, pure_eq_ok_iff] at read
  obtain ⟨⟨fields, others⟩, opened, _, _, _, _, _, _, _, _, _, _, data, dataRead, clone, cloneRead,
    extra, extraRead, rfl⟩ := read
  obtain ⟨given, unknown⟩ := canonical.openRecord opened
  exact ⟨given.notNull dataRead, given.notNull cloneRead, decodeExtra_beside extraRead unknown⟩

theorem ImageCheck.decode_unambiguous {effect : ImageCheck} (canonical : value.Canonical)
    (read : decode value = .ok effect) : effect.Unambiguous := by
  simp only [decode, bind_eq_ok_iff, pure_eq_ok_iff] at read
  obtain ⟨⟨fields, others⟩, opened, _, _, _, _, _, _, _, _, _, _, extra, extraRead, rfl⟩ := read
  exact ⟨decodeExtra_beside extraRead (canonical.openRecord opened).2⟩

end Effect

theorem Json.Canonical.mem_listOf {α : Type} {decode : Json → Decoded α} {value : Json}
    {items : List α} (canonical : value.Canonical) (read : listOf decode value = .ok items)
    {item : α} (member : item ∈ items) :
    ∃ part : Json, part.Canonical ∧ decode part = .ok item := by
  simp only [listOf, bind_eq_ok_iff] at read
  obtain ⟨parts, listed, decoded⟩ := read
  cases value with
  | list held =>
      cases listed
      obtain ⟨part, inParts, partRead⟩ := mem_of_mapM_eq_ok decoded member
      exact ⟨part, canonicalItems_iff.1 canonical part inParts, partRead⟩
  | _ => cases listed

theorem Rule.decode_unambiguous {rule : Rule} {value : Json} (canonical : value.Canonical)
    (read : decode value = .ok rule) : rule.Unambiguous := by
  simp only [decode, bind_eq_ok_iff, pure_eq_ok_iff] at read
  obtain ⟨fields, record, _, _, _, _, _, _, _, _, preconditions, preconditionsRead, mutate,
    mutateRead, validate, validateRead, generate, generateRead, verifyImages, verifyImagesRead,
    rfl⟩ := read
  have given := canonical.fields record
  refine ⟨given.notNull preconditionsRead, ?mutate, ?validate, ?generate, ?verifyImages⟩
  case mutate =>
    exact given.part Effect.Mutation.Unambiguous Effect.Mutation.unambiguous_empty
      (fun _ => Effect.Mutation.decode_unambiguous) mutateRead
  case validate =>
    exact given.part Effect.Validation.Unambiguous Effect.Validation.unambiguous_empty
      (fun _ => Effect.Validation.decode_unambiguous) validateRead
  case generate =>
    exact given.part Effect.Generation.Unambiguous Effect.Generation.unambiguous_empty
      (fun _ => Effect.Generation.decode_unambiguous) generateRead
  case verifyImages =>
    refine given.part (fun checks => ∀ check ∈ checks, check.Unambiguous) (by simp) ?_
      verifyImagesRead
    intro listed listedCanonical listRead check member
    obtain ⟨part, partCanonical, partRead⟩ := listedCanonical.mem_listOf listRead member
    exact Effect.ImageCheck.decode_unambiguous partCanonical partRead

theorem Rule.decode_encode_iff {rule : Rule} :
    decode rule.encode.canonical = .ok rule ↔ rule.Unambiguous :=
  ⟨decode_unambiguous rule.encode.canonical_canonical,
    fun clear => decode_document (σ := Json) .byKey clear⟩

end AdmissionPolicy
