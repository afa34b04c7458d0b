import AdmissionPolicy.Proofs.Policy.Outcomes
import AdmissionPolicy.Proofs.Rule.Places

/-!
The places of what the check of a policy finds. Every finding lies at the rule that it is about, or
inside it, and no finding is listed twice.
-/

namespace AdmissionPolicy.Policy

variable {settings : Settings} {policy : Policy}

theorem nameFindings_once (limit : Nat) (earlier : List String) (name : String)
    (place : Location) :
    ReportedOnce (place.child "name").Below (nameFindings limit earlier name place) := by
  unfold nameFindings
  split
  · exact ⟨List.nodup_singleton _, by simp [Finding.place, Location.below_self]⟩
  · refine .append_if ?_ ?_ ?_
    · exact Location.below_self _
    · exact Location.below_self _
    · exact Finding.noConfusion

theorem block_eq (selectorCheck : SelectorCheck) (position : Nat) (rule : Rule) :
    policy.block selectorCheck settings position rule =
      nameFindings settings.maxNameLength (policy.namesBefore position) rule.name
          (rulePlace position)
        ++ rule.check selectorCheck (rulePlace position) (policy.scope settings) := by
  simp only [block, Rule.check, scope, List.append_assoc]

theorem block_once (position : Nat) (rule : Rule) :
    ReportedOnce (rulePlace position).Below
      (policy.block Selector.check settings position rule) := by
  rw [block_eq]
  exact (nameFindings_once _ _ _ _).behind_field (rule.check_once _ _) (by decide)

theorem below_rulePlace_iff {found : Finding} {position : Nat}
    (below : (rulePlace position).Below found.place) (other : Nat) :
    (rulePlace other).Below found.place ↔ other = position := by
  constructor
  · intro otherBelow
    exact Location.Step.index.inj (otherBelow.step_eq below)
  · rintro rfl
    exact below

end AdmissionPolicy.Policy
