import AdmissionPolicy.Json.Canonical

/-!
Ways of laying a JSON value out: with the members of objects in the order in which they were put
together, or by key. What is read back does not depend on it.
-/

namespace AdmissionPolicy.Json

/-- A way of laying values out that moves the members of objects and changes nothing else. -/
structure Layout where
  place : Json → Json
  place_text (value : String) : place (.text value) = .text value
  place_bool (value : Bool) : place (.bool value) = .bool value
  place_list (items : List Json) : place (.list items) = .list (items.map place)
  place_value (value : Value) : place value.json = value.json
  place_object {members : List (String × Json)} (unique : (members.map Prod.fst).Nodup) :
    ∃ moved : List (String × Json), moved.Perm members ∧
      place (.object members) = .object (moved.map fun member => (member.1, place member.2))

namespace Layout

def asWritten : Layout where
  place value := value
  place_text _ := rfl
  place_bool _ := rfl
  place_list items := by rw [List.map_id']
  place_value _ := rfl
  place_object {members} _ := ⟨members, .refl _, by rw [List.map_id']⟩

def byKey : Layout where
  place := canonical
  place_text _ := rfl
  place_bool _ := rfl
  place_list items := by rw [canonical, canonicalItems_eq_map]
  place_value value := value.json.canonical_eq_self value.isCanonical
  place_object {members} unique := by
    refine ⟨(Dict.ofList members).entries, Dict.perm_ofList unique, ?_⟩
    rw [canonical, ofDict, canonicalMembers_eq_map, Dict.entries_ofList_map]

end Layout

end AdmissionPolicy.Json
