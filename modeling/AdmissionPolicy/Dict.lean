/-!
Maps from text to values, listed by key in strictly increasing code point order. Every operation
keeps that order, so two maps that hold the same entries are equal.
-/

namespace AdmissionPolicy

def Increasing {α : Type} (entries : List (String × α)) : Prop :=
  entries.Pairwise (fun left right => left.1 < right.1)

theorem lookup_eq_some_iff_mem {α : Type} {members : List (String × α)} {key : String} {value : α}
    (unique : (members.map Prod.fst).Nodup) :
    members.lookup key = some value ↔ (key, value) ∈ members := by
  induction members with
  | nil => simp
  | cons head rest ih =>
      obtain ⟨name, held⟩ := head
      rw [List.map_cons, List.nodup_cons] at unique
      by_cases same : key = name
      · have absent : (key, value) ∉ rest := by
          intro member
          exact unique.1 (List.mem_map.2 ⟨_, member, same⟩)
        simp [same, same ▸ absent, eq_comm]
      · have different : (key == name) = false := by simpa using same
        simp [List.lookup_cons, different, ih unique.2, same]

structure Dict (α : Type) where
  entries : List (String × α)
  ordered : Increasing entries

namespace Dict

variable {α β : Type}

theorem ext {left right : Dict α} (same : left.entries = right.entries) : left = right := by
  cases left
  cases right
  cases same
  rfl

instance [DecidableEq α] : DecidableEq (Dict α) := fun left right =>
  if same : left.entries = right.entries then .isTrue (ext same)
  else .isFalse (fun equal => same (congrArg entries equal))

instance [BEq α] : BEq (Dict α) where
  beq left right := left.entries == right.entries

/-- Puts an entry in its place among increasing entries, instead of one with the same key. -/
def place (key : String) (value : α) : List (String × α) → List (String × α)
  | [] => [(key, value)]
  | (other, held) :: rest =>
      if key < other then (key, value) :: (other, held) :: rest
      else if key = other then (key, value) :: rest
      else (other, held) :: place key value rest

theorem mem_place {key : String} {value : α} {entries : List (String × α)} {entry : String × α}
    (member : entry ∈ place key value entries) : entry = (key, value) ∨ entry ∈ entries := by
  induction entries with
  | nil => simpa [place] using member
  | cons head rest ih =>
      obtain ⟨other, held⟩ := head
      unfold place at member
      split at member
      · simpa using member
      · split at member
        · simp only [List.mem_cons] at member ⊢
          exact member.imp id Or.inr
        · simp only [List.mem_cons] at member ⊢
          rcases member with first | later
          · exact Or.inr (Or.inl first)
          · exact (ih later).imp id Or.inr

theorem increasing_place (key : String) (value : α) {entries : List (String × α)}
    (ordered : Increasing entries) : Increasing (place key value entries) := by
  induction entries with
  | nil => simp [place, Increasing]
  | cons head rest ih =>
      obtain ⟨other, held⟩ := head
      simp only [Increasing, List.pairwise_cons] at ordered ih ⊢
      obtain ⟨below, tail⟩ := ordered
      unfold place
      split
      · rename_i before
        simp only [List.pairwise_cons, List.mem_cons]
        refine ⟨?_, below, tail⟩
        rintro entry (rfl | later)
        · exact before
        · exact String.lt_trans before (below entry later)
      · split
        · rename_i _ same
          subst same
          exact List.pairwise_cons.2 ⟨below, tail⟩
        · rename_i notBefore different
          refine List.pairwise_cons.2 ⟨fun entry member => ?_, ih tail⟩
          rcases mem_place member with rfl | later
          · grind
          · exact below entry later

def empty : Dict α := ⟨[], List.Pairwise.nil⟩

instance : Inhabited (Dict α) := ⟨empty⟩

def insert (dict : Dict α) (key : String) (value : α) : Dict α :=
  ⟨place key value dict.entries, increasing_place key value dict.ordered⟩

def insertAll (dict : Dict α) (entries : List (String × α)) : Dict α :=
  entries.foldl (fun dict entry => dict.insert entry.1 entry.2) dict

/-- The map of a list of entries; of entries with one key the last one counts. -/
def ofList (entries : List (String × α)) : Dict α :=
  empty.insertAll entries

theorem mem_insertAll {entries : List (String × α)} {dict : Dict α} {entry : String × α}
    (member : entry ∈ (dict.insertAll entries).entries) :
    entry ∈ entries ∨ entry ∈ dict.entries := by
  induction entries generalizing dict with
  | nil => exact Or.inr member
  | cons head rest ih =>
      rcases ih member with later | placed
      · exact Or.inl (List.mem_cons_of_mem _ later)
      · rcases mem_place placed with rfl | held
        · exact Or.inl List.mem_cons_self
        · exact Or.inr held

theorem mem_ofList {entries : List (String × α)} {entry : String × α}
    (member : entry ∈ (ofList entries).entries) : entry ∈ entries := by
  rcases mem_insertAll member with listed | held
  · exact listed
  · simp [empty] at held

theorem nodup_keys_of_increasing {entries : List (String × α)} (ordered : Increasing entries) :
    (entries.map Prod.fst).Nodup := by
  refine List.pairwise_map.2 (ordered.imp ?_)
  intro left right before same
  rw [same] at before
  exact String.lt_irrefl _ before

theorem place_perm {key : String} {value : α} {entries : List (String × α)}
    (fresh : key ∉ entries.map Prod.fst) :
    (place key value entries).Perm ((key, value) :: entries) := by
  induction entries with
  | nil => exact .refl _
  | cons head rest ih =>
      obtain ⟨other, held⟩ := head
      simp only [List.map_cons, List.mem_cons, not_or] at fresh
      unfold place
      split
      · exact .refl _
      · rw [if_neg fresh.1]
        exact ((ih fresh.2).cons _).trans (.swap _ _ _)

theorem insertAll_perm {entries : List (String × α)} {dict : Dict α}
    (unique : (entries.map Prod.fst).Nodup)
    (fresh : ∀ entry ∈ entries, entry.1 ∉ dict.entries.map Prod.fst) :
    (dict.insertAll entries).entries.Perm (entries ++ dict.entries) := by
  induction entries generalizing dict with
  | nil => exact .refl _
  | cons head rest ih =>
      rw [List.map_cons, List.nodup_cons] at unique
      have placed : (dict.insert head.1 head.2).entries.Perm (head :: dict.entries) :=
        place_perm (fresh head List.mem_cons_self)
      have restFresh : ∀ entry ∈ rest,
          entry.1 ∉ (dict.insert head.1 head.2).entries.map Prod.fst := by
        intro entry member
        have different : entry.1 ≠ head.1 := by
          intro same
          exact unique.1 (same ▸ List.mem_map_of_mem member)
        rw [(placed.map Prod.fst).mem_iff, List.map_cons, List.mem_cons, not_or]
        exact ⟨different, fresh entry (List.mem_cons_of_mem _ member)⟩
      have later := ih unique.2 restFresh
      exact later.trans ((placed.append_left rest).trans List.perm_middle)

theorem perm_ofList {entries : List (String × α)} (unique : (entries.map Prod.fst).Nodup) :
    (ofList entries).entries.Perm entries := by
  have placed : (ofList entries).entries.Perm (entries ++ []) :=
    insertAll_perm unique fun _ _ => List.not_mem_nil
  rwa [List.append_nil] at placed

theorem ofList_of_perm {entries : List (String × α)} {dict : Dict α}
    (same : entries.Perm dict.entries) : ofList entries = dict := by
  have unique : (entries.map Prod.fst).Nodup :=
    (same.map Prod.fst).nodup_iff.2 (nodup_keys_of_increasing dict.ordered)
  apply ext
  refine List.Perm.eq_of_pairwise ?_ (ofList entries).ordered dict.ordered
    ((perm_ofList unique).trans same)
  intro left right _ _ before behind
  exact absurd (String.lt_trans before behind) (String.lt_irrefl _)

theorem place_map (change : α → β) (key : String) (value : α) (entries : List (String × α)) :
    place key (change value) (entries.map fun entry => (entry.1, change entry.2)) =
      (place key value entries).map fun entry => (entry.1, change entry.2) := by
  induction entries with
  | nil => rfl
  | cons head rest ih =>
      obtain ⟨other, held⟩ := head
      simp only [List.map_cons, place]
      split
      · rfl
      · split
        · rfl
        · rw [List.map_cons, ih]

theorem entries_insertAll_map (change : α → β) (entries : List (String × α)) {dict : Dict α}
    {changed : Dict β}
    (same : changed.entries = dict.entries.map fun entry => (entry.1, change entry.2)) :
    (changed.insertAll (entries.map fun entry => (entry.1, change entry.2))).entries =
      (dict.insertAll entries).entries.map fun entry => (entry.1, change entry.2) := by
  induction entries generalizing dict changed with
  | nil => exact same
  | cons head rest ih =>
      apply ih
      simp only [insert, same, place_map]

theorem entries_ofList_map (change : α → β) (entries : List (String × α)) :
    (ofList (entries.map fun entry => (entry.1, change entry.2))).entries =
      (ofList entries).entries.map fun entry => (entry.1, change entry.2) :=
  entries_insertAll_map change entries rfl

def get? (dict : Dict α) (key : String) : Option α :=
  dict.entries.lookup key

theorem get?_eq_some_iff_mem {dict : Dict α} {key : String} {value : α} :
    dict.get? key = some value ↔ (key, value) ∈ dict.entries :=
  lookup_eq_some_iff_mem (nodup_keys_of_increasing dict.ordered)

def contains (dict : Dict α) (key : String) : Bool :=
  dict.entries.any (fun entry => entry.1 == key)

def keys (dict : Dict α) : List String :=
  dict.entries.map Prod.fst

theorem contains_iff_mem_keys {dict : Dict α} {key : String} :
    dict.contains key = true ↔ key ∈ dict.keys := by
  simp [contains, keys]

def isEmpty (dict : Dict α) : Bool :=
  dict.entries.isEmpty

theorem isEmpty_iff {dict : Dict α} : dict.isEmpty = true ↔ dict = empty := by
  constructor
  · intro none
    exact ext (List.isEmpty_iff.1 none)
  · rintro rfl
    rfl

end Dict

abbrev TextSet := Dict Unit

def TextSet.ofList (members : List String) : TextSet :=
  Dict.ofList (members.map fun member => (member, ()))

end AdmissionPolicy
