import AdmissionPolicy.Proofs.Policy.Outcomes
import Mathlib.Data.Finset.Card

/-!
Rules of one name. A rule is called a duplicate exactly if its name is given and an earlier rule has
it, too; how long the name is plays no part in this.
-/

namespace AdmissionPolicy.Policy

/-- An earlier rule has the name. An empty name repeats nothing. -/
def Repeats (policy : Policy) (position : Nat) (name : String) : Prop :=
  name ≠ "" ∧ name ∈ policy.namesBefore position

instance (policy : Policy) (position : Nat) (name : String) :
    Decidable (policy.Repeats position name) :=
  inferInstanceAs (Decidable (_ ∧ _))

def FindsNoDuplicate (selectorCheck : SelectorCheck) : Prop :=
  ∀ selector place scope, ∀ found ∈ selectorCheck selector place scope, found.kind ≠ .duplicate

def givenNames (rules : List Rule) : List String :=
  (rules.map (·.name)).filter (· ≠ "")

theorem findsNoDuplicate_check : FindsNoDuplicate Selector.check := by
  intro selector place scope
  exact selector.forall_check (fun _ _ _ => Finding.Kind.noConfusion)
    (fun _ _ _ => Finding.Kind.noConfusion) (fun _ _ _ => Finding.Kind.noConfusion)
    (fun _ _ _ => Finding.Kind.noConfusion) place scope

section

variable {selectorCheck : SelectorCheck} {settings : Settings} {policy : Policy}

theorem mem_namesBefore_iff {position : Nat} (bound : position ≤ policy.rules.length)
    {name : String} :
    name ∈ policy.namesBefore position ↔
      ∃ earlier, ∃ before : earlier < position, policy.rules[earlier].name = name := by
  simp only [namesBefore, List.mem_map, List.mem_take_iff_getElem]
  constructor
  · rintro ⟨_, ⟨earlier, before, rfl⟩, named⟩
    exact ⟨earlier, by omega, named⟩
  · rintro ⟨earlier, before, named⟩
    exact ⟨_, ⟨earlier, by omega, rfl⟩, named⟩

theorem nameFindings_duplicates (limit : Nat) (earlier : List String) (name : String)
    (place : Location) :
    (nameFindings limit earlier name place).filter (·.kind = .duplicate) =
      if name ≠ "" ∧ name ∈ earlier then [.duplicate (place.child "name") name] else [] := by
  unfold nameFindings
  by_cases given : name = ""
  · simp [given, Finding.kind]
  · have long : (findingIf (limit < name.utf8ByteSize) (.invalid (place.child "name") name
        s!"must be no more than {limit} characters")).filter (·.kind = .duplicate) = [] :=
      filter_eq_nil_of_forall (forall_findingIf rfl)
    rw [if_neg given, List.filter_append, long, List.nil_append]
    by_cases taken : name ∈ earlier
    · simp [given, taken, findingIf, Finding.kind]
    · simp [taken, findingIf]

theorem ruleFindings_duplicates (none : FindsNoDuplicate selectorCheck) (names : List String)
    (position : Nat) (rule : Rule) :
    (ruleFindings selectorCheck settings policy names position rule).filter (·.kind = .duplicate) =
      if rule.name ≠ "" ∧ rule.name ∈ names then
        [.duplicate ((rulePlace position).child "name") rule.name]
      else [] := by
  have block (selector : Selector) (place : Location) (scope : Scope) :
      (selectorCheck selector place scope).filter (·.kind = .duplicate) = [] := by
    apply filter_eq_nil_of_forall
    intro found member
    exact decide_eq_false (none selector place scope found member)
  have operation (place : Location) :
      (rule.checkOperation place).filter (·.kind = .duplicate) = [] :=
    filter_eq_nil_of_forall (rule.forall_checkOperation place rfl rfl)
  have coverage (place : Location) : (rule.checkCoverage place).filter (·.kind = .duplicate) = [] := by
    rw [Rule.checkCoverage_eq]
    split <;> rfl
  rw [ruleFindings, checkName_eq_nameFindings fun _ => Iff.rfl]
  simp only [Rule.check, List.filter_append, nameFindings_duplicates, block, operation, coverage,
    List.append_nil]

/-! ### Where duplicates are found -/

theorem block_duplicates (none : FindsNoDuplicate selectorCheck) (position : Nat) (rule : Rule) :
    (policy.block selectorCheck settings position rule).filter (·.kind = .duplicate) =
      if policy.Repeats position rule.name then
        [.duplicate ((rulePlace position).child "name") rule.name]
      else [] := by
  rw [← ruleFindings_eq_block fun _ => Iff.rfl, ruleFindings_duplicates none]
  rfl

theorem mem_duplicates_iff (none : FindsNoDuplicate selectorCheck) (given : policy.rules ≠ [])
    {found : Finding} (duplicate : found.kind = .duplicate) :
    found ∈ (checkWith selectorCheck settings policy).1.findings ↔
      ∃ position, ∃ bound : position < policy.rules.length,
        policy.Repeats position policy.rules[position].name ∧
          found = .duplicate ((rulePlace position).child "name") policy.rules[position].name := by
  have kept : found ∈ (checkWith selectorCheck settings policy).1.findings ↔
      found ∈ (checkWith selectorCheck settings policy).1.findings.filter (·.kind = .duplicate) := by
    simp [List.mem_filter, duplicate]
  rw [kept, checkWith_report given, filter_blocks, mem_blocks_iff]
  simp only [block_duplicates none]
  refine exists_congr fun position => exists_congr fun bound => ?_
  split
  · simp [*]
  · simp [*]

theorem duplicate_mem_iff (none : FindsNoDuplicate selectorCheck) {position : Nat}
    (bound : position < policy.rules.length) :
    .duplicate ((rulePlace position).child "name") policy.rules[position].name ∈
        (checkWith selectorCheck settings policy).1.findings ↔
      policy.Repeats position policy.rules[position].name := by
  have given : policy.rules ≠ [] := List.ne_nil_of_length_pos (Nat.zero_lt_of_lt bound)
  rw [mem_duplicates_iff none given rfl]
  constructor
  · rintro ⟨other, _, repeated, same⟩
    have places := (Finding.duplicate.inj same).1
    obtain rfl : position = other := by
      simpa [Location.child, Location.extend, rulePlace, Location.index] using places
    exact repeated
  · intro repeated
    exact ⟨position, bound, repeated, rfl⟩

/-! ### How many there are -/

theorem givenNames_cons (rule : Rule) (rules : List Rule) :
    givenNames (rule :: rules) =
      if rule.name = "" then givenNames rules else rule.name :: givenNames rules := by
  unfold givenNames
  split
  · rename_i unnamed
    simp [unnamed]
  · rename_i given
    simp [given]

theorem card_namesBehind {names : List String} {name : String} :
    (names ++ [name]).toFinset.card + (if name ∈ names then 1 else 0) =
      names.toFinset.card + 1 := by
  have behind : (names ++ [name]).toFinset = insert name names.toFinset := by
    ext other
    simp
  rw [behind]
  by_cases taken : name ∈ names
  · rw [Finset.insert_eq_of_mem (List.mem_toFinset.2 taken), if_pos taken]
  · rw [Finset.card_insert_of_notMem (mt List.mem_toFinset.1 taken), if_neg taken, Nat.add_zero]

/-- Along the run every given name is a new one or is called a duplicate, and then it is counted
among the names taken already. -/
theorem findingsFrom_duplicates (none : FindsNoDuplicate selectorCheck) (names : List String)
    (position : Nat) (rules : List Rule) :
    (findingsFrom selectorCheck settings policy names position rules).countP (·.kind = .duplicate)
        + (names ++ givenNames rules).toFinset.card =
      names.toFinset.card + (givenNames rules).length := by
  induction rules generalizing names position with
  | nil => simp [findingsFrom, givenNames]
  | cons rule rules ih =>
      have step := ih (namesBehind names rule) (position + 1)
      rw [findingsFrom, List.countP_append, List.countP_eq_length_filter,
        ruleFindings_duplicates none, givenNames_cons]
      by_cases unnamed : rule.name = ""
      · simpa [namesBehind, unnamed] using step
      · have counted := @card_namesBehind names rule.name
        rw [namesBehind_of_given unnamed] at step ⊢
        rw [List.append_assoc, List.singleton_append] at step
        simp only [unnamed, ne_eq, not_false_eq_true, true_and, if_false, List.length_cons]
        by_cases taken : rule.name ∈ names
        · simp only [taken, if_true, List.length_singleton] at counted ⊢
          omega
        · simp only [taken, if_false, List.length_nil] at counted ⊢
          omega

end

/-- A rule is called a duplicate at its name exactly if the name is given and an earlier rule has it,
and nothing else is called a duplicate. With the different names that are given, the duplicates make
up the rules that have a name. -/
theorem checkWith_duplicates (selectorCheck : SelectorCheck) (settings : Settings) (policy : Policy)
    (given : policy.rules ≠ []) (none : FindsNoDuplicate selectorCheck) :
    let findings := (checkWith selectorCheck settings policy).1.findings
    (∀ (position : Nat) (bound : position < policy.rules.length),
        .duplicate ((rulePlace position).child "name") policy.rules[position].name ∈ findings ↔
          policy.rules[position].name ≠ "" ∧
            ∃ earlier, ∃ before : earlier < position,
              policy.rules[earlier].name = policy.rules[position].name) ∧
      (∀ found ∈ findings, found.kind = .duplicate →
        ∃ position, ∃ bound : position < policy.rules.length,
          found = .duplicate ((rulePlace position).child "name") policy.rules[position].name) ∧
      findings.countP (·.kind = .duplicate) + (givenNames policy.rules).toFinset.card =
        (givenNames policy.rules).length := by
  intro findings
  refine ⟨?_, ?_, ?_⟩
  · intro position bound
    rw [← mem_namesBefore_iff (Nat.le_of_lt bound)]
    exact duplicate_mem_iff none bound
  · intro found reported duplicate
    obtain ⟨position, bound, -, same⟩ := (mem_duplicates_iff none given duplicate).1 reported
    exact ⟨position, bound, same⟩
  · have found : findings = findingsFrom selectorCheck settings policy [] 0 policy.rules :=
      checkWith_findings given
    have counted := @findingsFrom_duplicates _ settings policy none [] 0 policy.rules
    rw [found]
    simpa using counted

theorem checkWith_duplicates_long :
    let settings := Settings.standard.withMaxNameLength 1
    let policy := { (default : Policy) with
      spec.rules := ["a", "", "bb", "", "bb"].map Rule.ofName }
    let findings := (checkWith Selector.check settings policy).1.findings
    policy.rules ≠ [] ∧ FindsNoDuplicate Selector.check ∧
      .duplicate ((rulePlace 4).child "name") "bb" ∈ findings ∧
      .duplicate ((rulePlace 3).child "name") "" ∉ findings ∧
      findings.countP (·.kind = .duplicate) = 1 := by
  intro settings policy findings
  have given : policy.rules ≠ [] := List.cons_ne_nil _ _
  obtain ⟨occurs, -, counted⟩ :=
    checkWith_duplicates Selector.check settings policy given findsNoDuplicate_check
  refine ⟨given, findsNoDuplicate_check, ?_, ?_, ?_⟩
  · exact (occurs 4 (by decide)).2 ⟨by decide, 2, by decide, rfl⟩
  · exact fun reported => ((occurs 3 (by decide)).1 reported).1 rfl
  · have different : (givenNames policy.rules).toFinset.card = 2 := by decide
    have all : (givenNames policy.rules).length = 3 := by decide
    rw [different, all] at counted
    exact Nat.add_right_cancel counted

end AdmissionPolicy.Policy
