import AdmissionPolicy.Proofs.Policy.Kinds
import Mathlib.Data.List.Basic

/-!
The kinds that a whole policy names. They are listed once each, in the order in which they occur for
the first time, so a further rule adds those that are new at the end and moves none.
-/

namespace AdmissionPolicy

theorem Selector.mem_kinds_iff {selector : Selector} {kind : String} :
    kind ∈ selector.kinds ↔ ∃ filter ∈ selector.filters, kind ∈ filter.resources.kinds := by
  simp only [kinds, filters, List.mem_append, List.mem_flatMap, List.mem_cons, or_and_right,
    exists_or, exists_eq_left]
  rw [or_assoc, or_comm (a := ∃ filter, filter ∈ selector.all ∧ _)]

namespace Policy

/-- The values that are not seen yet, each listed once, by first occurrence. -/
structure ListsNew (values seen listed : List String) : Prop where
  nodup : listed.Nodup
  mem_iff : ∀ value, value ∈ listed ↔ value ∈ values ∧ value ∉ seen
  ordered : listed.Pairwise fun first second => values.idxOf first < values.idxOf second

def unseen (seen : List String) : List String → List String
  | [] => []
  | value :: rest =>
      if value ∈ seen then unseen seen rest else value :: unseen (value :: seen) rest

section

variable {value : String} {seen other values further : List String}

theorem mem_unseen_iff : value ∈ unseen seen values ↔ value ∈ values ∧ value ∉ seen := by
  induction values generalizing seen with
  | nil => simp [unseen]
  | cons first rest ih =>
      rw [unseen]
      split
      · rename_i before
        rw [ih, List.mem_cons]
        constructor
        · rintro ⟨later, fresh⟩
          exact ⟨.inr later, fresh⟩
        · rintro ⟨rfl | later, fresh⟩
          · exact absurd before fresh
          · exact ⟨later, fresh⟩
      · rename_i new
        rw [List.mem_cons, ih, List.mem_cons, List.mem_cons]
        constructor
        · rintro (rfl | ⟨later, fresh⟩)
          · exact ⟨.inl rfl, new⟩
          · exact ⟨.inr later, fun before => fresh (.inr before)⟩
        · rintro ⟨rfl | later, fresh⟩
          · exact .inl rfl
          · by_cases same : value = first
            · exact .inl same
            · exact .inr ⟨later, fun before => before.elim same fresh⟩

theorem unseen_congr (same : ∀ value, value ∈ seen ↔ value ∈ other) :
    unseen seen values = unseen other values := by
  induction values generalizing seen other with
  | nil => rfl
  | cons first rest ih =>
      have behind : ∀ value, value ∈ first :: seen ↔ value ∈ first :: other := by
        intro value
        rw [List.mem_cons, List.mem_cons, same]
      simp only [unseen, same first, ih same, ih behind]

theorem unseen_append :
    unseen seen (values ++ further) = unseen seen values ++ unseen (values ++ seen) further := by
  induction values generalizing seen with
  | nil => rfl
  | cons first rest ih =>
      rw [List.cons_append, unseen, unseen]
      split
      · rename_i before
        have same : ∀ value, value ∈ rest ++ seen ↔ value ∈ first :: rest ++ seen := by
          intro value
          simp only [List.cons_append, List.mem_cons, List.mem_append]
          constructor
          · exact .inr
          · rintro (rfl | either)
            · exact .inr before
            · exact either
        rw [ih, unseen_congr same]
      · have same : ∀ value, value ∈ rest ++ first :: seen ↔ value ∈ first :: rest ++ seen := by
          intro value
          simp only [List.cons_append, List.mem_cons, List.mem_append]
          exact or_left_comm
        rw [List.cons_append, ih, unseen_congr same, List.cons_append]

theorem filter_unseen : (unseen seen values).filter (· != value) = unseen (value :: seen) values := by
  induction values generalizing seen with
  | nil => rfl
  | cons first rest ih =>
      have exchanged : unseen (value :: first :: seen) rest = unseen (first :: value :: seen) rest := by
        apply unseen_congr
        intro other
        simp only [List.mem_cons]
        exact or_left_comm
      by_cases before : first ∈ seen
      · simp [unseen, before, ih]
      · by_cases same : first = value
        · subst same
          have twice : unseen (first :: first :: seen) rest = unseen (first :: seen) rest := by
            apply unseen_congr
            simp
          simp [unseen, before, ih, twice]
        · simp [unseen, before, same, ih, exchanged]

theorem firstOccurrences_eq_unseen : firstOccurrences values = unseen [] values := by
  induction values with
  | nil => rfl
  | cons value rest ih =>
      rw [firstOccurrences, ih, filter_unseen]
      rfl

theorem unseen_ordered :
    (unseen seen values).Pairwise fun first second => values.idxOf first < values.idxOf second := by
  induction values generalizing seen with
  | nil => exact .nil
  | cons value rest ih =>
      -- Behind the first value, the positions of all others move by one.
      have moved (before : List String) (kept : value ∈ before) :
          (unseen before rest).Pairwise fun first second =>
            (value :: rest).idxOf first < (value :: rest).idxOf second := by
        refine ih.imp_of_mem ?_
        intro first second inFirst inSecond earlier
        have firstOther : value ≠ first := fun same => (mem_unseen_iff.1 inFirst).2 (same ▸ kept)
        have secondOther : value ≠ second := fun same => (mem_unseen_iff.1 inSecond).2 (same ▸ kept)
        rw [List.idxOf_cons_ne _ firstOther, List.idxOf_cons_ne _ secondOther]
        exact Nat.succ_lt_succ earlier
      rw [unseen]
      split
      · rename_i before
        exact moved seen before
      · refine .cons ?_ (moved (value :: seen) List.mem_cons_self)
        intro later member
        have other : value ≠ later :=
          fun same => (mem_unseen_iff.1 member).2 (same ▸ List.mem_cons_self)
        rw [List.idxOf_cons_self, List.idxOf_cons_ne _ other]
        exact Nat.succ_pos _

theorem listsNew_unseen : ListsNew values seen (unseen seen values) where
  nodup := by
    refine unseen_ordered.imp ?_
    rintro value _ earlier rfl
    exact Nat.lt_irrefl _ earlier
  mem_iff _ := mem_unseen_iff
  ordered := unseen_ordered

theorem firstOccurrences_append :
    firstOccurrences (values ++ further) =
      firstOccurrences values ++ unseen (firstOccurrences values) further := by
  have same : ∀ value, value ∈ values ++ [] ↔ value ∈ firstOccurrences values := by
    intro value
    rw [List.append_nil, mem_firstOccurrences_iff]
  rw [firstOccurrences_eq_unseen, unseen_append, unseen_congr same, ← firstOccurrences_eq_unseen]

end

/-- A list of kinds is the ordered union of what one block of each rule names: its direct filter and
the filters of both of its lists. -/
structure KindUnion (blockOf : Rule → Selector) (kindsOf : Policy → List String) (policy : Policy) :
    Prop where
  listed : ListsNew (policy.rules.flatMap fun rule => (blockOf rule).kinds) [] (kindsOf policy)
  named : ∀ kind, kind ∈ kindsOf policy ↔
    ∃ rule ∈ policy.rules, ∃ filter ∈ (blockOf rule).filters, kind ∈ filter.resources.kinds
  grows : ∀ rule, ∃ added, kindsOf (policy.addRule rule) = kindsOf policy ++ added ∧
    ListsNew (blockOf rule).kinds (kindsOf policy) added

theorem kindUnion_of_eq {blockOf : Rule → Selector} {kindsOf : Policy → List String}
    (eq : ∀ policy, kindsOf policy =
      firstOccurrences (policy.rules.flatMap fun rule => (blockOf rule).kinds)) (policy : Policy) :
    KindUnion blockOf kindsOf policy where
  listed := by
    rw [eq, firstOccurrences_eq_unseen]
    exact listsNew_unseen
  named kind := by
    simp only [eq, mem_firstOccurrences_iff, List.mem_flatMap, Selector.mem_kinds_iff]
  grows rule := by
    have rules : (policy.addRule rule).rules = policy.rules ++ [rule] := rfl
    refine ⟨unseen (kindsOf policy) (blockOf rule).kinds, ?_, listsNew_unseen⟩
    rw [eq, eq, rules, List.flatMap_append, List.flatMap_singleton, firstOccurrences_append]

/-- The kinds of the match blocks, and those of the exclude blocks, are listed for a policy once each
and by first occurrence, also when a rule is added. -/
theorem kinds_ordered_union (policy : Policy) :
    KindUnion Rule.matching matchKinds policy ∧ KindUnion Rule.excluding excludeKinds policy :=
  ⟨kindUnion_of_eq (fun _ => rfl) policy, kindUnion_of_eq (fun _ => rfl) policy⟩

example :
    let pods := { Rule.ofName "a" with matching := .ofFilter (Filter.empty.withKinds ["Pod"]) }
    let both := { Rule.ofName "b" with
      matching := .anyOf [Filter.empty.withKinds ["Node", "Pod"], Filter.empty.withKinds ["Node"]] }
    (((default : Policy).addRule pods).addRule both).matchKinds = ["Pod", "Node"] := by
  decide

end Policy

end AdmissionPolicy
