import AdmissionPolicy.Proofs.Coverage.Analysis
import AdmissionPolicy.Proofs.Policy.Blocks
import AdmissionPolicy.Proofs.Rule.Findings

/-!
Where the outcome of a comparison of two blocks is reported: a skipped comparison as a warning, a
covered match block as a finding, and anything else nowhere.
-/

namespace AdmissionPolicy

theorem filter_eq_nil_of_forall {keeps : Finding → Bool} {findings : List Finding}
    (none : ∀ found ∈ findings, keeps found = false) : findings.filter keeps = [] := by
  rw [List.filter_eq_nil_iff]
  intro found member
  simp [none found member]

namespace Policy

variable {settings : Settings} {policy : Policy}

theorem check_of_no_rules (none : policy.rules = []) :
    policy.check settings = .withFinding (.emptyPolicy rulesPlace) := by
  simp [check, checkWith, none]

theorem rulePlace_injective {position other : Nat} (same : rulePlace position = rulePlace other) :
    position = other := by
  simpa [rulePlace, Location.index, Location.extend] using same

theorem mem_blocks_iff {α : Type} {blockOf : Nat → Rule → List α} {entry : α} :
    entry ∈ (policy.rules.mapIdx blockOf).flatten ↔
      ∃ position, ∃ bound : position < policy.rules.length,
        entry ∈ blockOf position policy.rules[position] := by
  constructor
  · intro member
    obtain ⟨block, inBlocks, inBlock⟩ := List.mem_flatten.1 member
    obtain ⟨position, bound, rfl⟩ := List.mem_mapIdx.1 inBlocks
    exact ⟨position, bound, inBlock⟩
  · rintro ⟨position, bound, inBlock⟩
    exact List.mem_flatten.2 ⟨_, List.mem_mapIdx.2 ⟨position, bound, rfl⟩, inBlock⟩

end Policy

end AdmissionPolicy
