import AdmissionPolicy.Codec.Rule
import AdmissionPolicy.Proofs.Codec.Members

/-!
Parts of a rule for which nothing is given. The test for them, the default of the part and the object
without members that it is written as say the same, so nothing that is given is left out of a written
rule, and the effects that a rule declares are those that it is written with.
-/

namespace AdmissionPolicy

/-- The test for emptiness holds of the default alone, and the default alone is written as an object
without members. -/
def EmptyIsDefault {α : Type} (isEmpty : α → Bool) (default : α) (encode : α → Json) : Prop :=
  ∀ part, (isEmpty part = true ↔ part = default) ∧ (part = default ↔ encode part = .object [])

theorem EmptyIsDefault.of {α : Type} {isEmpty : α → Bool} {default : α} {encode : α → Json}
    (equal : ∀ {part}, isEmpty part = true ↔ part = default)
    (written : ∀ {part}, encode part = .object [] ↔ isEmpty part = true) :
    EmptyIsDefault isEmpty default encode :=
  fun _ => ⟨equal, equal.symm.trans written.symm⟩

/-! ### Selectors -/

theorem LabelSelector.encode_eq_empty_iff {selector : LabelSelector} :
    selector.encode = .object [] ↔ selector.isEmpty = true := by
  simp [encode, isEmpty]

theorem Requester.members_eq_nil_iff {requester : Requester} :
    requester.members = [] ↔ requester.isEmpty = true := by
  simp [members, isEmpty, and_assoc]

theorem Requester.encode_eq_empty_iff {requester : Requester} :
    requester.encode = .object [] ↔ requester.isEmpty = true := by
  simp [encode, members_eq_nil_iff]

theorem ResourceCriteria.encode_eq_empty_iff {criteria : ResourceCriteria} :
    criteria.encode = .object [] ↔ criteria.isEmpty = true := by
  simp [encode, isEmpty, and_assoc]

theorem Filter.members_eq_nil_iff {filter : Filter} :
    filter.members = [] ↔ filter.isEmpty = true := by
  simp [members, isEmpty, Requester.members_eq_nil_iff]

theorem Filter.encode_eq_empty_iff {filter : Filter} :
    filter.encode = .object [] ↔ filter.isEmpty = true := by
  simp [encode, members_eq_nil_iff]

theorem Selector.encode_eq_empty_iff {selector : Selector} :
    selector.encode = .object [] ↔ selector.isEmpty = true := by
  simp only [encode, isEmpty, Json.object.injEq, List.append_eq_nil_iff, Json.listMember_eq_nil_iff,
    Filter.members_eq_nil_iff, Bool.and_eq_true, List.isEmpty_iff]
  constructor
  · rintro ⟨⟨any, all⟩, direct⟩
    exact ⟨⟨direct, any⟩, all⟩
  · rintro ⟨⟨direct, any⟩, all⟩
    exact ⟨⟨any, all⟩, direct⟩

/-! ### Effects -/

namespace Effect

theorem extraMembers_eq_nil_iff {extra : Dict Value} :
    extraMembers extra = [] ↔ extra.isEmpty = true := by
  simp [extraMembers, Dict.isEmpty]

theorem Mutation.encode_eq_empty_iff {effect : Mutation} :
    effect.encode = .object [] ↔ effect.isEmpty = true := by
  simp [encode, isEmpty, extraMembers_eq_nil_iff, and_assoc]

theorem Validation.encode_eq_empty_iff {effect : Validation} :
    effect.encode = .object [] ↔ effect.isEmpty = true := by
  simp [encode, isEmpty, extraMembers_eq_nil_iff, and_assoc]

theorem Generation.encode_eq_empty_iff {effect : Generation} :
    effect.encode = .object [] ↔ effect.isEmpty = true := by
  simp [encode, isEmpty, extraMembers_eq_nil_iff, and_assoc]

theorem ImageCheck.encode_eq_empty_iff {effect : ImageCheck} :
    effect.encode = .object [] ↔ effect.isEmpty = true := by
  simp [encode, isEmpty, extraMembers_eq_nil_iff, and_assoc]

end Effect

/-! ### Rules -/

def Json.keys : Json → List String
  | object members => members.map Prod.fst
  | _ => []

section

variable {α : Type} {key name : String}

theorem Json.mem_keys_memberIf {given : Bool} {value : Json} :
    name ∈ (memberIf given key value).map Prod.fst ↔ given = true ∧ name = key := by
  cases given <;> simp [memberIf]

theorem Json.mem_keys_memberOf {held : Option α} {encode : α → Json} :
    name ∈ (memberOf key held encode).map Prod.fst ↔ held ≠ none ∧ name = key := by
  cases held <;> simp [memberOf]

end

namespace Rule

def effectKeys : List String := ["mutate", "validate", "generate", "verifyImages"]

theorem mem_keys_encode_iff {rule : Rule} {key : String} :
    key ∈ rule.encode.keys ↔
      (rule.name ≠ "" ∧ key = "name") ∨ (rule.context ≠ [] ∧ key = "context") ∨
      (rule.matching.isEmpty = false ∧ key = "match") ∨
      (rule.excluding.isEmpty = false ∧ key = "exclude") ∨
      (rule.preconditions ≠ none ∧ key = "preconditions") ∨
      (rule.mutate.isEmpty = false ∧ key = "mutate") ∨
      (rule.validate.isEmpty = false ∧ key = "validate") ∨
      (rule.generate.isEmpty = false ∧ key = "generate") ∨
      (rule.verifyImages ≠ [] ∧ key = "verifyImages") := by
  simp [encode, Json.keys, Json.listMember, Json.textMember, Json.mem_keys_memberIf,
    Json.mem_keys_memberOf]

theorem declaredOperations_eq_countP (rule : Rule) :
    rule.declaredOperations = effectKeys.countP (· ∈ rule.encode.keys) := by
  have mutate : "mutate" ∈ rule.encode.keys ↔ rule.declaresMutate = true := by
    simp [mem_keys_encode_iff, declaresMutate]
  have validate : "validate" ∈ rule.encode.keys ↔ rule.declaresValidate = true := by
    simp [mem_keys_encode_iff, declaresValidate]
  have generate : "generate" ∈ rule.encode.keys ↔ rule.declaresGenerate = true := by
    simp [mem_keys_encode_iff, declaresGenerate]
  have verifyImages : "verifyImages" ∈ rule.encode.keys ↔ rule.declaresVerifyImages = true := by
    simp [mem_keys_encode_iff, declaresVerifyImages]
  simp only [effectKeys, List.countP_cons, List.countP_nil, mutate, validate, generate,
    verifyImages, declaredOperations, List.count_cons, List.count_nil, Bool.decide_eq_true,
    beq_true]

/-- For every part of a rule, being empty, being the default and being written as an object without
members are the same. So a part is written exactly if it is not empty, and a rule declares as many
operations as it is written with effects. -/
theorem encode_leaves_out_empty :
    (EmptyIsDefault Selector.isEmpty .empty Selector.encode ∧
      EmptyIsDefault Filter.isEmpty .empty Filter.encode ∧
      EmptyIsDefault ResourceCriteria.isEmpty .empty ResourceCriteria.encode ∧
      EmptyIsDefault Requester.isEmpty .empty Requester.encode ∧
      EmptyIsDefault LabelSelector.isEmpty .empty LabelSelector.encode) ∧
    (EmptyIsDefault Effect.Mutation.isEmpty .empty Effect.Mutation.encode ∧
      EmptyIsDefault Effect.Validation.isEmpty .empty Effect.Validation.encode ∧
      EmptyIsDefault Effect.Generation.isEmpty .empty Effect.Generation.encode ∧
      EmptyIsDefault Effect.ImageCheck.isEmpty .empty Effect.ImageCheck.encode) ∧
    ∀ rule : Rule,
      ("match" ∈ rule.encode.keys ↔ rule.matching.isEmpty = false) ∧
      ("exclude" ∈ rule.encode.keys ↔ rule.excluding.isEmpty = false) ∧
      ("mutate" ∈ rule.encode.keys ↔ rule.mutate.isEmpty = false) ∧
      ("validate" ∈ rule.encode.keys ↔ rule.validate.isEmpty = false) ∧
      ("generate" ∈ rule.encode.keys ↔ rule.generate.isEmpty = false) ∧
      ("verifyImages" ∈ rule.encode.keys ↔ rule.verifyImages ≠ []) ∧
      rule.declaredOperations = effectKeys.countP (· ∈ rule.encode.keys) := by
  refine ⟨⟨?selector, ?filter, ?criteria, ?requester, ?labels⟩,
    ⟨?mutation, ?validation, ?generation, ?imageCheck⟩, fun rule => ?keys⟩
  case selector => exact .of Selector.isEmpty_iff Selector.encode_eq_empty_iff
  case filter => exact .of Filter.isEmpty_iff Filter.encode_eq_empty_iff
  case criteria => exact .of ResourceCriteria.isEmpty_iff ResourceCriteria.encode_eq_empty_iff
  case requester => exact .of Requester.isEmpty_iff Requester.encode_eq_empty_iff
  case labels => exact .of LabelSelector.isEmpty_iff LabelSelector.encode_eq_empty_iff
  case mutation => exact .of Effect.Mutation.isEmpty_iff Effect.Mutation.encode_eq_empty_iff
  case validation => exact .of Effect.Validation.isEmpty_iff Effect.Validation.encode_eq_empty_iff
  case generation => exact .of Effect.Generation.isEmpty_iff Effect.Generation.encode_eq_empty_iff
  case imageCheck => exact .of Effect.ImageCheck.isEmpty_iff Effect.ImageCheck.encode_eq_empty_iff
  case keys =>
    have operations := rule.declaredOperations_eq_countP
    refine ⟨?_, ?_, ?_, ?_, ?_, ?_, operations⟩ <;> simp [mem_keys_encode_iff]

end Rule

end AdmissionPolicy
