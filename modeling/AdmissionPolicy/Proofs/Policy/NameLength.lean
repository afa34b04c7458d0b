import AdmissionPolicy.Proofs.Policy.Places
import AdmissionPolicy.Proofs.Policy.Names
import AdmissionPolicy.Proofs.Policy.Valid
import Mathlib.Data.String.Basic

/-!
Which rule names pass. The limit on their length is announced in characters and measured in octets,
so the check turns away exactly those allowed names that have more octets than the limit.
-/

namespace AdmissionPolicy

/-! ### Octets and characters of a text -/

theorem length_le_utf8Len (characters : List Char) :
    characters.length ≤ String.utf8Len characters := by
  induction characters with
  | nil => exact Nat.le_refl 0
  | cons c characters ih =>
      have positive := c.utf8Size_pos
      rw [List.length_cons, String.utf8Len_cons]
      omega

theorem utf8Len_eq_length {characters : List Char} (ascii : ∀ c ∈ characters, c.utf8Size = 1) :
    String.utf8Len characters = characters.length := by
  induction characters with
  | nil => rfl
  | cons c characters ih =>
      obtain ⟨one, others⟩ := List.forall_mem_cons.1 ascii
      rw [String.utf8Len_cons, List.length_cons, ih others, one]

theorem utf8ByteSize_eq_utf8Len (text : String) :
    text.utf8ByteSize = String.utf8Len text.toList := by
  rw [← String.utf8ByteSize_ofList, String.ofList_toList]

theorem length_le_utf8ByteSize (text : String) : text.length ≤ text.utf8ByteSize := by
  rw [utf8ByteSize_eq_utf8Len, ← String.length_toList]
  exact length_le_utf8Len _

theorem utf8ByteSize_eq_length {text : String} (ascii : ∀ c ∈ text.toList, c.utf8Size = 1) :
    text.utf8ByteSize = text.length := by
  rw [utf8ByteSize_eq_utf8Len, utf8Len_eq_length ascii, String.length_toList]

namespace Policy

/-- What is announced about the name of a rule: it is given, has no more characters than the limit,
and is not the name of an earlier rule. -/
structure AllowsName (policy : Policy) (settings : Settings) (position : Nat) (name : String) :
    Prop where
  given : name ≠ ""
  short : name.length ≤ settings.maxNameLength
  fresh : name ∉ policy.namesBefore position

def PassesName (policy : Policy) (settings : Settings) (position : Nat) : Prop :=
  ∀ found ∈ (policy.check settings).findings, found.place ≠ (rulePlace position).child "name"

variable {settings : Settings} {policy : Policy}

theorem nameFindings_place {limit : Nat} {earlier : List String} {name : String}
    {place : Location} :
    ∀ found ∈ nameFindings limit earlier name place, found.place = place.child "name" := by
  unfold nameFindings
  split
  · simp [Finding.place]
  · rw [List.forall_mem_append]
    exact ⟨forall_findingIf rfl, forall_findingIf rfl⟩

theorem check_place_ne_name (rule : Rule) (place : Location) (scope : Scope) :
    ∀ found ∈ rule.check Selector.check place scope, found.place ≠ place.child "name" := by
  intro found reported atName
  have inside : (place.child "name").Below found.place := atName ▸ Location.below_self _
  rcases (rule.check_once place scope).inScope found reported with itself | ⟨block, listed, below⟩
  · exact inside.ne_base itself
  · obtain rfl : block = "name" := by simpa using below.step_eq inside
    exact absurd listed (by decide)

theorem passesName_iff {position : Nat} (bound : position < policy.rules.length) :
    policy.PassesName settings position ↔
      policy.rules[position].Named settings ∧
        policy.rules[position].name ∉ policy.namesBefore position := by
  have given : policy.rules ≠ [] := List.ne_nil_of_length_pos (Nat.zero_lt_of_lt bound)
  rw [← @checkName_eq_nil_iff settings _ _ (rulePlace position),
    checkName_eq_nameFindings fun _ => Iff.rfl, PassesName, check, checkWith_report given]
  constructor
  · intro passes
    rw [List.eq_nil_iff_forall_not_mem]
    intro found reported
    refine passes found (mem_blocks_iff.2 ⟨position, bound, ?_⟩) (nameFindings_place found reported)
    rw [block_eq]
    exact List.mem_append_left _ reported
  · intro clean found reported atName
    obtain ⟨other, otherBound, inBlock⟩ := mem_blocks_iff.1 reported
    -- The place of the name lies inside one rule only.
    have below := (block_once other policy.rules[other]).inScope found inBlock
    have inside : (rulePlace position).Below found.place :=
      atName ▸ (Location.below_self _).of_extend
    obtain rfl := (below_rulePlace_iff below position).1 inside
    rw [block_eq, clean, List.nil_append] at inBlock
    exact check_place_ne_name _ _ _ found inBlock atName

theorem AllowsName.of_passes {position : Nat} (bound : position < policy.rules.length)
    (passes : policy.PassesName settings position) :
    policy.AllowsName settings position policy.rules[position].name := by
  obtain ⟨named, fresh⟩ := (passesName_iff bound).1 passes
  exact ⟨named.given, (length_le_utf8ByteSize _).trans named.short, fresh⟩

theorem AllowsName.passes {position : Nat} (bound : position < policy.rules.length)
    (allowed : policy.AllowsName settings position policy.rules[position].name)
    (short : policy.rules[position].name.utf8ByteSize ≤ settings.maxNameLength) :
    policy.PassesName settings position :=
  (passesName_iff bound).2 ⟨⟨allowed.given, short⟩, allowed.fresh⟩

theorem passesName_agrees_iff {position : Nat} (bound : position < policy.rules.length) :
    let name := policy.rules[position].name
    (policy.PassesName settings position ↔ policy.AllowsName settings position name) ↔
      ¬(policy.AllowsName settings position name ∧
        settings.maxNameLength < name.utf8ByteSize) := by
  intro name
  constructor
  · rintro agrees ⟨allowed, long⟩
    have short := ((passesName_iff bound).1 (agrees.2 allowed)).1.short
    exact absurd short (Nat.not_le_of_lt long)
  · intro notLong
    refine ⟨AllowsName.of_passes bound, ?_⟩
    intro allowed
    refine allowed.passes bound (Nat.le_of_not_lt ?_)
    exact fun long => notLong ⟨allowed, long⟩

/-- A name passes exactly if it is given, has no more octets than the limit and is not the name of an
earlier rule. That agrees with what is announced unless a name is allowed that has more octets than
the limit, so it agrees for ASCII names. -/
theorem passesName_octets (settings : Settings) (policy : Policy) {position : Nat}
    (bound : position < policy.rules.length) :
    let name := policy.rules[position].name
    (policy.PassesName settings position ↔
        name ≠ "" ∧ name.utf8ByteSize ≤ settings.maxNameLength ∧
          ∀ earlier ∈ policy.rules.take position, earlier.name ≠ name) ∧
      ((policy.PassesName settings position ↔ policy.AllowsName settings position name) ↔
        ¬(policy.AllowsName settings position name ∧
          settings.maxNameLength < name.utf8ByteSize)) ∧
      ((∀ c ∈ name.toList, c.utf8Size = 1) →
        (policy.PassesName settings position ↔ policy.AllowsName settings position name)) := by
  intro name
  refine ⟨?_, passesName_agrees_iff bound, ?_⟩
  · have fresh : name ∉ policy.namesBefore position ↔
        ∀ earlier ∈ policy.rules.take position, earlier.name ≠ name := by
      simp only [namesBefore, List.mem_map, not_exists, not_and, ne_eq]
    rw [passesName_iff bound, fresh]
    constructor
    · rintro ⟨⟨given, short⟩, different⟩
      exact ⟨given, short, different⟩
    · rintro ⟨given, short, different⟩
      exact ⟨⟨given, short⟩, different⟩
  · intro ascii
    refine ⟨AllowsName.of_passes bound, ?_⟩
    intro allowed
    refine allowed.passes bound ?_
    rw [utf8ByteSize_eq_length ascii]
    exact allowed.short

theorem passesName_octets_sign :
    let policy := (default : Policy).addRule (.ofName "sign")
    0 < policy.rules.length ∧ (∀ c ∈ "sign".toList, c.utf8Size = 1) ∧
      policy.PassesName .standard 0 ∧
      ¬policy.PassesName (Settings.standard.withMaxNameLength 3) 0 := by
  intro policy
  have bound : 0 < policy.rules.length := by decide
  have ascii : ∀ c ∈ "sign".toList, c.utf8Size = 1 := by
    have each : "sign".toList.all (fun c => decide (c.utf8Size = 1)) = true := by decide
    intro c member
    exact of_decide_eq_true (List.all_eq_true.1 each c member)
  have long := (passesName_octets .standard policy bound).2.2 ascii
  have short := (passesName_octets (Settings.standard.withMaxNameLength 3) policy bound).2.2 ascii
  have given : "sign" ≠ "" := by decide
  have four : "sign".length = 4 := by decide
  refine ⟨bound, ascii, ?_, ?_⟩
  · have allowed : "sign".length ≤ Settings.standard.maxNameLength := by decide
    exact long.2 ⟨given, allowed, List.not_mem_nil⟩
  · intro passes
    have few : "sign".length ≤ 3 := (short.1 passes).short
    omega

/-- A name of 32 characters is found to be longer than 63. -/
theorem allowed_name_not_passed :
    let name := "éééééééééééééééééééééééééééééééé"
    let policy := (default : Policy).addRule { Rule.ofName name with
      validate := { Effect.Validation.empty with message := "m" } }
    policy.AllowsName .standard 0 name ∧
      (policy.check .standard).findings =
        [.invalid ((rulePlace 0).child "name") name "must be no more than 63 characters"] ∧
      ¬policy.PassesName .standard 0 := by
  intro name policy
  have found : (policy.check .standard).findings =
      [.invalid ((rulePlace 0).child "name") name "must be no more than 63 characters"] := by
    decide +kernel
  refine ⟨⟨by decide, by decide +kernel, List.not_mem_nil⟩, found, ?_⟩
  intro passes
  rw [PassesName, found, List.forall_mem_singleton] at passes
  exact passes rfl

end Policy

end AdmissionPolicy
