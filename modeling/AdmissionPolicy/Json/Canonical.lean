import AdmissionPolicy.Json.Value

/-!
JSON values as data: objects are maps, which list their members by key and each key once, and
numbers are finite. Two such values that hold the same are equal.
-/

namespace AdmissionPolicy

namespace Number

def isFinite : Number → Bool
  | whole _ => true
  | real value => value.isFinite

end Number

namespace Json

mutual

/-- Objects list their members by increasing keys, and numbers are finite. -/
def Canonical : Json → Prop
  | number value => value.isFinite
  | list items => CanonicalItems items
  | object members => Increasing members ∧ CanonicalMembers members
  | _ => True

def CanonicalItems : List Json → Prop
  | [] => True
  | item :: rest => Canonical item ∧ CanonicalItems rest

def CanonicalMembers : List (String × Json) → Prop
  | [] => True
  | (_, value) :: rest => Canonical value ∧ CanonicalMembers rest

end

mutual

/-- The data of a value: of members with one key the last one counts, and infinities and NaN are
nothing. -/
def canonical : Json → Json
  | number value => if value.isFinite then .number value else .null
  | list items => .list (canonicalItems items)
  | object members => .ofDict (.ofList (canonicalMembers members))
  | value => value

def canonicalItems : List Json → List Json
  | [] => []
  | item :: rest => canonical item :: canonicalItems rest

def canonicalMembers : List (String × Json) → List (String × Json)
  | [] => []
  | (key, value) :: rest => (key, canonical value) :: canonicalMembers rest

end

theorem canonicalMembers_iff {members : List (String × Json)} :
    CanonicalMembers members ↔ ∀ member ∈ members, Canonical member.2 := by
  induction members with
  | nil => simp [CanonicalMembers]
  | cons head rest ih =>
      obtain ⟨key, value⟩ := head
      simp only [CanonicalMembers, ih, List.forall_mem_cons]

mutual

theorem canonical_canonical : (value : Json) → Canonical (canonical value)
  | null => trivial
  | bool _ => trivial
  | number value => by
      unfold canonical
      split
      · rename_i finite
        exact finite
      · trivial
  | text _ => trivial
  | list items => canonicalItems_canonicalItems items
  | object members => by
      refine ⟨Dict.ordered _, canonicalMembers_iff.2 fun member present => ?_⟩
      exact canonicalMembers_iff.1 (canonicalMembers_canonicalMembers members) member
        (Dict.mem_ofList present)

theorem canonicalItems_canonicalItems :
    (items : List Json) → CanonicalItems (canonicalItems items)
  | [] => trivial
  | item :: rest => ⟨canonical_canonical item, canonicalItems_canonicalItems rest⟩

theorem canonicalMembers_canonicalMembers :
    (members : List (String × Json)) → CanonicalMembers (canonicalMembers members)
  | [] => trivial
  | (_, value) :: rest => ⟨canonical_canonical value, canonicalMembers_canonicalMembers rest⟩

end

theorem canonicalItems_eq_map (items : List Json) : canonicalItems items = items.map canonical := by
  induction items with
  | nil => rfl
  | cons item rest ih => rw [canonicalItems, ih, List.map_cons]

theorem canonicalMembers_eq_map (members : List (String × Json)) :
    canonicalMembers members = members.map fun member => (member.1, canonical member.2) := by
  induction members with
  | nil => rfl
  | cons head rest ih => rw [canonicalMembers, ih, List.map_cons]

mutual

theorem canonical_eq_self : (value : Json) → Canonical value → canonical value = value
  | null, _ => rfl
  | bool _, _ => rfl
  | number _, finite => if_pos finite
  | text _, _ => rfl
  | list items, parts => congrArg list (canonicalItems_eq_self items parts)
  | object members, ⟨ordered, parts⟩ => by
      have listed : Dict.ofList members = ⟨members, ordered⟩ := Dict.ofList_of_perm (.refl members)
      rw [canonical, canonicalMembers_eq_self members parts, listed]
      rfl

theorem canonicalItems_eq_self :
    (items : List Json) → CanonicalItems items → canonicalItems items = items
  | [], _ => rfl
  | item :: rest, ⟨first, parts⟩ => by
      rw [canonicalItems, canonical_eq_self item first, canonicalItems_eq_self rest parts]

theorem canonicalMembers_eq_self :
    (members : List (String × Json)) → CanonicalMembers members → canonicalMembers members = members
  | [], _ => rfl
  | (_, value) :: rest, ⟨first, parts⟩ => by
      rw [canonicalMembers, canonical_eq_self value first, canonicalMembers_eq_self rest parts]

end

end Json

structure Value where
  json : Json
  isCanonical : json.Canonical

namespace Value

def ofJson (json : Json) : Value :=
  ⟨json.canonical, json.canonical_canonical⟩

theorem ext {left right : Value} (same : left.json = right.json) : left = right := by
  cases left
  cases right
  cases same
  rfl

theorem ofJson_json (value : Value) : ofJson value.json = value :=
  ext (value.json.canonical_eq_self value.isCanonical)

instance : BEq Value where
  beq left right := left.json == right.json

instance : Inhabited Value := ⟨ofJson .null⟩

end Value

end AdmissionPolicy
