import AdmissionPolicy.Check.Rule

/-!
The effects of a rule. A rule passes if it declares one effect. It has to give one that is not empty,
but a list of image checks is declared as soon as it is there, so the check goes wrong exactly where
that one effect too many decides.
-/

namespace AdmissionPolicy

inductive Effect.Kind
  | mutate
  | validate
  | generate
  | verifyImages
  deriving DecidableEq

def Effect.Kind.all : List Effect.Kind := [.mutate, .validate, .generate, .verifyImages]

namespace Rule

def declares (rule : Rule) : Effect.Kind → Bool
  | .mutate => rule.declaresMutate
  | .validate => rule.declaresValidate
  | .generate => rule.declaresGenerate
  | .verifyImages => rule.declaresVerifyImages

def gives (rule : Rule) : Effect.Kind → Bool
  | .mutate => !rule.mutate.isEmpty
  | .validate => !rule.validate.isEmpty
  | .generate => !rule.generate.isEmpty
  | .verifyImages => rule.verifyImages.any fun check => !check.isEmpty

def effects (rule : Rule) : List Effect.Kind :=
  [.mutate, .validate, .generate, .verifyImages].filter rule.gives

def OnlyEmptyImageChecks (rule : Rule) : Prop :=
  rule.verifyImages ≠ [] ∧ ∀ check ∈ rule.verifyImages, check.isEmpty = true

/-- The effect is one of those that the check counts: by itself it passes, and no other one passes
beside it. -/
structure Counts (rule : Rule) (kind : Effect.Kind) : Prop where
  declared : rule.declares kind = true
  counted : rule.declaredOperations = (Effect.Kind.all.erase kind).countP rule.declares + 1
  passes : ∀ place, rule.checkOperation place = [] ↔
    ∀ other, other ≠ kind → rule.declares other = false

/-- The check of the effects finds what the number of effects that are given calls for. -/
structure ChecksEffects (rule : Rule) (place : Location) : Prop where
  none : rule.checkOperation place = [.missingOperation place rule.name] ↔ rule.effects.length = 0
  one : rule.checkOperation place = [] ↔ rule.effects.length = 1
  more : rule.checkOperation place = [.multipleOperations place rule.name] ↔
    2 ≤ rule.effects.length

theorem declaredOperations_add (rule : Rule) :
    rule.declaredOperations + (rule.gives .verifyImages).toNat =
      rule.effects.length + rule.declaresVerifyImages.toNat := by
  have mutate : rule.declaresMutate = rule.gives .mutate := rfl
  have validate : rule.declaresValidate = rule.gives .validate := rfl
  have generate : rule.declaresGenerate = rule.gives .generate := rfl
  simp only [declaredOperations, effects, mutate, validate, generate, List.count_cons,
    ← List.countP_eq_length_filter, List.countP_cons]
  cases rule.gives .verifyImages <;> cases rule.declaresVerifyImages <;> simp <;> omega

theorem declaredOperations_of_onlyEmpty {rule : Rule} (empty : rule.OnlyEmptyImageChecks) :
    rule.declaredOperations = rule.effects.length + 1 := by
  obtain ⟨listed, allEmpty⟩ := empty
  have declared : rule.declaresVerifyImages = true := by simpa [declaresVerifyImages] using listed
  have notGiven : rule.gives .verifyImages = false := by simpa [gives] using allEmpty
  have added := rule.declaredOperations_add
  rwa [declared, notGiven] at added

theorem declaredOperations_of_not_onlyEmpty {rule : Rule} (given : ¬rule.OnlyEmptyImageChecks) :
    rule.declaredOperations = rule.effects.length := by
  have same : rule.declaresVerifyImages = rule.gives .verifyImages := by
    by_cases none : rule.verifyImages = []
    · simp [declaresVerifyImages, gives, none]
    · have some : ∃ check ∈ rule.verifyImages, check.isEmpty = false := by
        simpa [OnlyEmptyImageChecks, none] using given
      have declared : rule.declaresVerifyImages = true := by simpa [declaresVerifyImages] using none
      have isGiven : rule.gives .verifyImages = true := by simpa [gives] using some
      rw [declared, isGiven]
  have added := rule.declaredOperations_add
  rw [same] at added
  exact Nat.add_right_cancel added

theorem checkOperation_eq_nil_iff {rule : Rule} {place : Location} :
    rule.checkOperation place = [] ↔ rule.declaredOperations = 1 := by
  unfold checkOperation
  match rule.declaredOperations with
  | 0 => simp
  | 1 => simp
  | more + 2 => simp

theorem checkOperation_eq_missing_iff {rule : Rule} {place : Location} :
    rule.checkOperation place = [.missingOperation place rule.name] ↔
      rule.declaredOperations = 0 := by
  unfold checkOperation
  match rule.declaredOperations with
  | 0 => simp
  | 1 => simp
  | more + 2 => simp

theorem checkOperation_eq_multiple_iff {rule : Rule} {place : Location} :
    rule.checkOperation place = [.multipleOperations place rule.name] ↔
      2 ≤ rule.declaredOperations := by
  unfold checkOperation
  match rule.declaredOperations with
  | 0 => simp
  | 1 => simp
  | more + 2 => simp

theorem declaredOperations_of_declares {rule : Rule} {kind : Effect.Kind}
    (declared : rule.declares kind = true) :
    rule.declaredOperations = (Effect.Kind.all.erase kind).countP rule.declares + 1 := by
  have counted : rule.declaredOperations = Effect.Kind.all.countP rule.declares :=
    calc rule.declaredOperations
      _ = (Effect.Kind.all.map rule.declares).countP (· == true) := rfl
      _ = Effect.Kind.all.countP rule.declares := by
        simp only [List.countP_map, Function.comp_def, beq_true]
  have listed : kind ∈ Effect.Kind.all := by cases kind <;> decide
  rw [counted, (List.perm_cons_erase listed).countP_eq, List.countP_cons_of_pos declared]

theorem counts_of_declares {rule : Rule} {kind : Effect.Kind}
    (declared : rule.declares kind = true) : rule.Counts kind := by
  have counted := declaredOperations_of_declares declared
  have others : ∀ other, other ∈ Effect.Kind.all.erase kind ↔ other ≠ kind := by
    cases kind <;> rintro (_ | _ | _ | _) <;> decide
  refine ⟨declared, counted, fun place => ?_⟩
  rw [checkOperation_eq_nil_iff, counted, Nat.add_eq_right, List.countP_eq_zero]
  simp only [others, Bool.not_eq_true]

theorem checksEffects_iff_declared {rule : Rule} {place : Location} :
    rule.ChecksEffects place ↔
      (rule.declaredOperations = 0 ↔ rule.effects.length = 0) ∧
        (rule.declaredOperations = 1 ↔ rule.effects.length = 1) ∧
        (2 ≤ rule.declaredOperations ↔ 2 ≤ rule.effects.length) := by
  rw [← @checkOperation_eq_missing_iff rule place, ← @checkOperation_eq_nil_iff rule place,
    ← @checkOperation_eq_multiple_iff rule place]
  constructor
  · rintro ⟨none, one, more⟩
    exact ⟨none, one, more⟩
  · rintro ⟨none, one, more⟩
    exact ⟨none, one, more⟩

/-- The check of the effects goes by the effects that are given, unless there are image checks which
are all empty and at most one effect is given: these it counts as an effect of their own. -/
theorem checksEffects_iff (rule : Rule) (place : Location) :
    rule.ChecksEffects place ↔ ¬rule.OnlyEmptyImageChecks ∨ 2 ≤ rule.effects.length := by
  rw [checksEffects_iff_declared]
  by_cases empty : rule.OnlyEmptyImageChecks
  · have oneMore := declaredOperations_of_onlyEmpty empty
    simp only [empty, not_true_eq_false, false_or]
    omega
  · have same := declaredOperations_of_not_onlyEmpty empty
    simp [empty, same]

theorem not_checksEffects_of_empty_image_check :
    ({ ofName "vi" with verifyImages := [.empty] } : Rule).effects = [] ∧
      ¬({ ofName "vi" with verifyImages := [.empty] } : Rule).ChecksEffects (.ofField "spec") := by
  refine ⟨by decide, fun checks => ?_⟩
  have one := checks.one.1 (by decide)
  exact absurd one (by decide)

end Rule

end AdmissionPolicy
