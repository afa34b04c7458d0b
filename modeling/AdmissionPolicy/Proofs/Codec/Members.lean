import AdmissionPolicy.Codec.Selector

/-!
Members of objects by their keys: what is found under a key, and how the members of an object come
apart into the fields of a record and others. Neither depends on the order of the members.
-/

namespace AdmissionPolicy

section

variable {α β : Type} {key : String}

theorem lookup_map (change : α → β) (members : List (String × α)) :
    (members.map fun member => (member.1, change member.2)).lookup key =
      (members.lookup key).map change := by
  induction members with
  | nil => rfl
  | cons head rest ih =>
      obtain ⟨name, held⟩ := head
      rw [List.map_cons, List.lookup_cons, List.lookup_cons, ih]
      cases key == name <;> rfl

theorem lookup_perm {members others : List (String × α)} (same : members.Perm others)
    (unique : (others.map Prod.fst).Nodup) : members.lookup key = others.lookup key := by
  have unique' : (members.map Prod.fst).Nodup := (same.map Prod.fst).nodup_iff.2 unique
  apply Option.ext
  intro value
  rw [lookup_eq_some_iff_mem unique, lookup_eq_some_iff_mem unique', same.mem_iff]

theorem Fields.separate_eq {names : List String} {members : List (String × α)}
    (unique : (members.map Prod.fst).Nodup) :
    separate names members =
      .ok (members.filter fun member => member.1 ∈ names,
        members.filter fun member => member.1 ∉ names) := by
  induction members with
  | nil => rfl
  | cons head rest ih =>
      obtain ⟨name, value⟩ := head
      rw [List.map_cons, List.nodup_cons] at unique
      have single : ((rest.filter fun member => decide (member.1 ∈ names)).any
          fun member => member.1 == name) = false := by
        rw [List.any_eq_false]
        intro member kept same
        exact unique.1 (List.mem_map.2 ⟨member, (List.mem_filter.1 kept).1, beq_iff_eq.1 same⟩)
      rw [separate, ih unique.2]
      by_cases known : name ∈ names
      · simp [known, single, bind, Except.bind]
      · simp [known, bind, Except.bind]

end

/-! ### Fields of a record among the members of an object -/

/-- Members with some of the names, each at most once and in the order of the names. -/
def Listed {α : Type} (members : List (String × α)) (names : List String) : Prop :=
  (members.map Prod.fst).Sublist names

/-- Members of an object that are fields of a record, in their order, and other members. -/
structure Parted {α : Type} (names : List String) (members own others : List (String × α)) :
    Prop where
  parts : members.Perm (own ++ others)
  distinct : names.Nodup
  listed : Listed own names
  unknown : ∀ member ∈ others, member.1 ∉ names
  unique : (others.map Prod.fst).Nodup

section

variable {α β : Type} {names : List String} {members own others : List (String × α)}

theorem Listed.append {first second : List (String × α)} {firstNames secondNames : List String}
    (before : Listed first firstNames) (behind : Listed second secondNames) :
    Listed (first ++ second) (firstNames ++ secondNames) := by
  rw [Listed, List.map_append]
  exact List.Sublist.append before behind

theorem Listed.mem {member : String × α} (listed : Listed members names)
    (present : member ∈ members) : member.1 ∈ names :=
  listed.subset (List.mem_map_of_mem present)

theorem Listed.parted {otherNames : List String} (listed : Listed own names)
    (others_listed : Listed others otherNames) (distinct : (names ++ otherNames).Nodup)
    (parts : members.Perm (own ++ others)) : Parted names members own others := by
  obtain ⟨first, second, apart⟩ := List.nodup_append.1 distinct
  refine ⟨parts, first, listed, ?_, others_listed.nodup second⟩
  intro member present known
  exact apart _ known _ (others_listed.mem present) rfl

theorem Listed.alone (listed : Listed own names) (distinct : names.Nodup) :
    Parted names own own [] :=
  listed.parted (.refl []) (by rwa [List.append_nil]) (by rw [List.append_nil])

namespace Parted

theorem ownUnique (parted : Parted names members own others) : (own.map Prod.fst).Nodup :=
  parted.listed.nodup parted.distinct

theorem membersUnique (parted : Parted names members own others) :
    (members.map Prod.fst).Nodup := by
  rw [(parted.parts.map Prod.fst).nodup_iff, List.map_append, List.nodup_append]
  refine ⟨parted.ownUnique, parted.unique, ?_⟩
  rintro first inOwn second inOthers rfl
  obtain ⟨member, present, key⟩ := List.mem_map.1 inOthers
  exact parted.unknown member present (key ▸ parted.listed.subset inOwn)

theorem change (parted : Parted names members own others) (change : α → β)
    {changed : List (String × β)}
    (same : changed.Perm (members.map fun member => (member.1, change member.2))) :
    Parted names changed (own.map fun member => (member.1, change member.2))
      (others.map fun member => (member.1, change member.2)) where
  parts := by
    rw [← List.map_append]
    exact same.trans (parted.parts.map _)
  distinct := parted.distinct
  listed := by
    rw [Listed, List.map_map]
    exact parted.listed
  unknown := by
    simp only [List.forall_mem_map]
    exact parted.unknown
  unique := by
    rw [List.map_map]
    exact parted.unique

theorem separate (parted : Parted names members own others) :
    ∃ kept rest, Fields.separate names members = .ok (kept, rest) ∧
      kept.Perm own ∧ rest.Perm others := by
  refine ⟨_, _, Fields.separate_eq parted.membersUnique, ?_, ?_⟩
  · have kept : own.filter (fun member => decide (member.1 ∈ names)) = own :=
      List.filter_eq_self.2 fun member present => by simpa using parted.listed.mem present
    have dropped : others.filter (fun member => decide (member.1 ∈ names)) = [] :=
      List.filter_eq_nil_iff.2 fun member present => by simpa using parted.unknown member present
    have filtered := parted.parts.filter fun member => decide (member.1 ∈ names)
    rwa [List.filter_append, kept, dropped, List.append_nil] at filtered
  · have dropped : own.filter (fun member => decide (member.1 ∉ names)) = [] :=
      List.filter_eq_nil_iff.2 fun member present => by simpa using parted.listed.mem present
    have kept : others.filter (fun member => decide (member.1 ∉ names)) = others :=
      List.filter_eq_self.2 fun member present => by simpa using parted.unknown member present
    have filtered := parted.parts.filter fun member => decide (member.1 ∉ names)
    rwa [List.filter_append, kept, dropped, List.nil_append] at filtered

end Parted

end

/-! ### Members that may be left out -/

namespace Json

variable {α : Type} {key name : String}

theorem listed_memberIf (given : Bool) (key : String) (value : Json) :
    Listed (memberIf given key value) [key] := by
  cases given
  · exact List.nil_sublist _
  · exact .refl _

theorem listed_memberOf (key : String) (held : Option α) (encode : α → Json) :
    Listed (memberOf key held encode) [key] := by
  cases held
  · exact List.nil_sublist _
  · exact .refl _

theorem listed_listMember (key : String) (items : List α) (encode : α → Json) :
    Listed (listMember key items encode) [key] :=
  listed_memberIf _ _ _

theorem listed_textMember (key value : String) : Listed (textMember key value) [key] :=
  listed_memberIf _ _ _

attribute [simp] List.lookup_append

@[simp] theorem lookup_member (value : Json) (rest : List (String × Json)) :
    ((key, value) :: rest).lookup name = if name = key then some value else rest.lookup name := by
  by_cases same : name = key
  · simp [same]
  · have different : (name == key) = false := by simpa using same
    simp [List.lookup_cons, different, same]

@[simp] theorem lookup_memberIf (given : Bool) (value : Json) :
    (memberIf given key value).lookup name =
      if name = key then (if given then some value else none) else none := by
  cases given <;> simp [memberIf]

@[simp] theorem lookup_memberOf (held : Option α) (encode : α → Json) :
    (memberOf key held encode).lookup name =
      if name = key then held.map encode else none := by
  cases held <;> simp [memberOf]

@[simp] theorem lookup_listMember (items : List α) (encode : α → Json) :
    (listMember key items encode).lookup name =
      if name = key then (if !items.isEmpty then some (.list (items.map encode)) else none)
      else none :=
  lookup_memberIf _ _

@[simp] theorem lookup_textMember (value : String) :
    (textMember key value).lookup name =
      if name = key then (if !value.isEmpty then some (.text value) else none) else none :=
  lookup_memberIf _ _

@[simp] theorem memberIf_eq_nil_iff {given : Bool} {value : Json} :
    memberIf given key value = [] ↔ given = false := by
  cases given <;> simp [memberIf]

@[simp] theorem memberOf_eq_nil_iff {held : Option α} {encode : α → Json} :
    memberOf key held encode = [] ↔ held = none := by
  cases held <;> simp [memberOf]

@[simp] theorem listMember_eq_nil_iff {items : List α} {encode : α → Json} :
    listMember key items encode = [] ↔ items = [] := by
  simp [listMember]

@[simp] theorem textMember_eq_nil_iff {value : String} : textMember key value = [] ↔ value = "" := by
  simp [textMember]

end Json

end AdmissionPolicy
