import Mathlib.Algebra.GroupWithZero.Nat
import AdmissionPolicy.Uuid

/-!
Every identifier reads back from its text: the groups of digits that are written are the groups that
are found, and their digits make up the value again.
-/

namespace AdmissionPolicy.Uuid

theorem hexDigits_length (value count : Nat) : (hexDigits value count).length = count := by
  induction count generalizing value with
  | zero => rfl
  | succ count ih => rw [hexDigits, List.length_append, ih, List.length_singleton]

theorem mem_hexDigits {value count : Nat} {c : Char} (member : c ∈ hexDigits value count) :
    ∃ digit < 16, c = Nat.digitChar digit := by
  induction count generalizing value with
  | zero => exact absurd member List.not_mem_nil
  | succ count ih =>
      rw [hexDigits, List.mem_append, List.mem_singleton] at member
      rcases member with earlier | rfl
      · exact ih earlier
      · exact ⟨value % 16, Nat.mod_lt _ (by decide), rfl⟩

theorem digitValue?_digitChar : ∀ digit < 16, digitValue? (Nat.digitChar digit) = some digit := by
  decide

/-- What tells a digit from the marks that can stand in a text of an identifier. -/
theorem digitChar_ne : ∀ digit < 16, Nat.digitChar digit ≠ '-' ∧ Nat.digitChar digit ≠ '\x7b' ∧
    (Nat.digitChar digit).toLower ≠ 'u' := by
  decide

theorem foldl_hexDigits (value count : Nat) :
    (hexDigits value count).foldl (fun total c => total * 16 + (digitValue? c).getD 0) 0 =
      value % 16 ^ count := by
  induction count generalizing value with
  | zero => simp [hexDigits, Nat.mod_one]
  | succ count ih =>
      have last := digitValue?_digitChar (value % 16) (Nat.mod_lt _ (by decide))
      rw [hexDigits, List.foldl_append, ih, List.foldl_cons, List.foldl_nil, last, Option.getD_some,
        Nat.pow_succ', Nat.mod_mul, Nat.mul_comm, Nat.add_comm]

theorem ofDigits_hexDigits (uuid : Uuid) : ofDigits (hexDigits uuid.value 32) = uuid := by
  obtain ⟨value, bounded⟩ := uuid
  have small : value % 16 ^ 32 % Nat.pow 2 128 = value := by
    have width : 16 ^ 32 = Nat.pow 2 128 := by decide
    rw [width, Nat.mod_eq_of_lt bounded, Nat.mod_eq_of_lt bounded]
  simp only [ofDigits, foldl_hexDigits, small]

/-! ### Groups of digits -/

theorem joinGroups_flatten (digits : List Char) (lengths : List Nat) :
    (joinGroups digits lengths).flatten = digits.take lengths.sum := by
  induction lengths generalizing digits with
  | nil => simp [joinGroups]
  | cons length lengths ih =>
      rw [joinGroups, List.flatten_cons, ih, List.sum_cons, List.take_add]

theorem joinGroups_lengths {digits : List Char} {lengths : List Nat}
    (enough : lengths.sum ≤ digits.length) :
    (joinGroups digits lengths).map List.length = lengths := by
  induction lengths generalizing digits with
  | nil => rfl
  | cons length lengths ih =>
      rw [List.sum_cons] at enough
      have rest : lengths.sum ≤ (digits.drop length).length := by
        rw [List.length_drop]
        omega
      rw [joinGroups, List.map_cons, ih rest, List.length_take, Nat.min_eq_left (by omega)]

theorem mem_joinGroups {digits group : List Char} {lengths : List Nat} {c : Char}
    (member : group ∈ joinGroups digits lengths) (inGroup : c ∈ group) : c ∈ digits := by
  have inAll : c ∈ (joinGroups digits lengths).flatten := List.mem_flatten_of_mem member inGroup
  rw [joinGroups_flatten] at inAll
  exact List.mem_of_mem_take inAll

/-! ### The text of an identifier -/

section

variable (uuid : Uuid)

def textGroups : List (List Char) :=
  joinGroups (hexDigits uuid.value 32) groupLengths

theorem text_toList : uuid.text.toList = ['-'].intercalate uuid.textGroups :=
  String.toList_ofList

theorem isDigit_of_mem {group : List Char} {c : Char} (member : group ∈ uuid.textGroups)
    (inGroup : c ∈ group) : ∃ digit < 16, c = Nat.digitChar digit :=
  mem_hexDigits (mem_joinGroups member inGroup)

theorem groups_text : groups uuid.text.toList = uuid.textGroups := by
  rw [groups, text_toList]
  refine List.splitOn_intercalate '-' ?_ (List.cons_ne_nil _ _)
  intro group member inGroup
  obtain ⟨digit, bound, same⟩ := uuid.isDigit_of_mem member inGroup
  exact (digitChar_ne digit bound).1 same.symm

theorem textGroups_digits :
    uuid.textGroups.all (fun group => group.all fun c => (digitValue? c).isSome) = true := by
  rw [List.all_eq_true]
  intro group member
  rw [List.all_eq_true]
  intro c inGroup
  obtain ⟨digit, bound, rfl⟩ := uuid.isDigit_of_mem member inGroup
  rw [digitValue?_digitChar digit bound]
  rfl

theorem text_eq_cons : ∃ digit < 16, ∃ rest, uuid.text.toList = Nat.digitChar digit :: rest := by
  have length := hexDigits_length uuid.value 32
  cases digits : hexDigits uuid.value 32 with
  | nil =>
      rw [digits] at length
      exact absurd length (by decide)
  | cons first more =>
      obtain ⟨digit, bound, rfl⟩ := mem_hexDigits (digits ▸ List.mem_cons_self)
      refine ⟨digit, bound, ?_⟩
      rw [text_toList, textGroups, digits]
      simp [joinGroups, groupLengths, List.intercalate]

theorem dash_mem_text : '-' ∈ uuid.text.toList := by
  rw [text_toList]
  simp [textGroups, groupLengths, joinGroups, List.intercalate]

theorem unwrap_text : unwrap uuid.text.toList = (uuid.text.toList, 0) := by
  obtain ⟨digit, bound, rest, starts⟩ := uuid.text_eq_cons
  obtain ⟨_, notBrace, notScheme⟩ := digitChar_ne digit bound
  have notName : lowerCase (uuid.text.toList.take schemeText.length) ≠ schemeText := by
    rw [starts]
    intro same
    exact notScheme (List.cons.inj same).1
  rw [unwrap, if_neg, if_neg notName]
  simp [starts, notBrace]

end

theorem parse_text (uuid : Uuid) : parse uuid.text = .ok uuid := by
  have notPlain : uuid.text.toList.all (fun c => (digitValue? c).isSome) = false := by
    rw [List.all_eq_false]
    exact ⟨'-', uuid.dash_mem_text, by decide⟩
  have lengths : uuid.textGroups.map List.length = groupLengths :=
    joinGroups_lengths (by rw [hexDigits_length]; decide)
  have digits : uuid.textGroups.flatten = hexDigits uuid.value 32 := by
    rw [textGroups, joinGroups_flatten]
    exact List.take_of_length_le (by rw [hexDigits_length]; decide)
  simp only [parse, unwrap_text, groups_text, notPlain, lengths, textGroups_digits, digits,
    ofDigits_hexDigits, Bool.and_false, decide_true, Bool.and_true, if_true]
  exact if_neg Bool.false_ne_true

end AdmissionPolicy.Uuid
