import AdmissionPolicy.Pattern.Wildcard

/-!
The language of name patterns, stated without a matcher: a name belongs to it if it splits along the
pattern. The main statement is about a pattern that is compared with the text of another pattern.
-/

namespace AdmissionPolicy.Pattern

/-- A name splits along a pattern: `*` takes a run of characters, possibly empty, `?` takes one
character, and every other character takes itself. -/
inductive Accepts : List Char → List Char → Prop
  | nil : Accepts [] []
  | anyRun {pattern name} (run : List Char) :
      Accepts pattern name → Accepts ('*' :: pattern) (run ++ name)
  | anyChar {pattern name} (c : Char) :
      Accepts pattern name → Accepts ('?' :: pattern) (c :: name)
  | char {c pattern name} : c ≠ '*' → c ≠ '?' →
      Accepts pattern name → Accepts (c :: pattern) (c :: name)

theorem accepts_nil_iff {name : List Char} : Accepts [] name ↔ name = [] := by
  constructor
  · intro accepted
    cases accepted
    rfl
  · rintro rfl
    exact .nil

theorem accepts_star_iff {pattern name : List Char} :
    Accepts ('*' :: pattern) name ↔ ∃ rest, rest <:+ name ∧ Accepts pattern rest := by
  constructor
  · intro accepted
    cases accepted with
    | @anyRun _ rest run tail => exact ⟨rest, ⟨run, rfl⟩, tail⟩
    | char notStar => exact absurd rfl notStar
  · rintro ⟨rest, ⟨run, rfl⟩, tail⟩
    exact .anyRun run tail

theorem accepts_cons_iff {c : Char} {pattern name : List Char} (notStar : c ≠ '*') :
    Accepts (c :: pattern) name ↔
      ∃ x rest, name = x :: rest ∧ (c = '?' ∨ c = x) ∧ Accepts pattern rest := by
  constructor
  · intro accepted
    cases accepted with
    | anyRun => exact absurd rfl notStar
    | anyChar x tail => exact ⟨x, _, rfl, .inl rfl, tail⟩
    | char _ _ tail => exact ⟨c, _, rfl, .inr rfl, tail⟩
  · rintro ⟨x, rest, rfl, taken, tail⟩
    by_cases question : c = '?'
    · subst question
      exact .anyChar x tail
    · obtain rfl := taken.resolve_left question
      exact .char notStar question tail

theorem accepts_append_iff {before after name : List Char} :
    Accepts (before ++ after) name ↔
      ∃ first second, name = first ++ second ∧ Accepts before first ∧ Accepts after second := by
  induction before generalizing name with
  | nil =>
      rw [List.nil_append]
      constructor
      · intro accepted
        exact ⟨[], name, rfl, .nil, accepted⟩
      · rintro ⟨first, second, rfl, empty, accepted⟩
        rw [accepts_nil_iff] at empty
        subst empty
        exact accepted
  | cons c before ih =>
      rw [List.cons_append]
      by_cases star : c = '*'
      · subst star
        simp only [accepts_star_iff, ih]
        constructor
        · rintro ⟨_, ⟨run, rfl⟩, first, second, rfl, accepted, tail⟩
          exact ⟨run ++ first, second, by simp, ⟨first, ⟨run, rfl⟩, accepted⟩, tail⟩
        · rintro ⟨_, second, rfl, ⟨first, ⟨run, rfl⟩, accepted⟩, tail⟩
          exact ⟨first ++ second, ⟨run, by simp⟩, first, second, rfl, accepted, tail⟩
      · simp only [accepts_cons_iff star, ih]
        constructor
        · rintro ⟨x, _, rfl, taken, first, second, rfl, accepted, tail⟩
          exact ⟨x :: first, second, rfl, ⟨x, first, rfl, taken, accepted⟩, tail⟩
        · rintro ⟨_, second, rfl, ⟨x, first, rfl, taken, accepted⟩, tail⟩
          exact ⟨x, first ++ second, rfl, taken, first, second, rfl, accepted, tail⟩

theorem accepts_star_star_iff {pattern name : List Char} :
    Accepts ('*' :: '*' :: pattern) name ↔ Accepts ('*' :: pattern) name := by
  simp only [accepts_star_iff]
  constructor
  · rintro ⟨_, outer, rest, inner, accepted⟩
    exact ⟨rest, inner.trans outer, accepted⟩
  · rintro ⟨rest, suffix, accepted⟩
    exact ⟨name, List.suffix_rfl, rest, suffix, accepted⟩

theorem accepts_self (pattern : List Char) : Accepts pattern pattern := by
  induction pattern with
  | nil => exact .nil
  | cons c pattern ih =>
      by_cases star : c = '*'
      · subst star
        exact .anyRun ['*'] ih
      · exact (accepts_cons_iff star).2 ⟨c, pattern, rfl, .inr rfl, ih⟩

theorem Accepts.length_eq {pattern name : List Char} (accepted : Accepts pattern name)
    (noStar : '*' ∉ pattern) : name.length = pattern.length := by
  induction accepted with
  | nil => rfl
  | anyRun => exact absurd List.mem_cons_self noStar
  | anyChar _ _ ih =>
      rw [List.length_cons, List.length_cons, ih fun later => noStar (List.mem_cons_of_mem _ later)]
  | char _ _ _ ih =>
      rw [List.length_cons, List.length_cons, ih fun later => noStar (List.mem_cons_of_mem _ later)]

theorem exists_accepts_longer {pattern : List Char} (star : '*' ∈ pattern) (length : Nat) :
    ∃ name, Accepts pattern name ∧ length < name.length := by
  obtain ⟨before, after, rfl⟩ := List.append_of_mem star
  let run := List.replicate (length + 1) 'x'
  have behind : Accepts ('*' :: after) (run ++ after) := .anyRun run (accepts_self after)
  refine ⟨before ++ (run ++ after), ?_, ?_⟩
  · exact accepts_append_iff.2 ⟨before, run ++ after, rfl, accepts_self before, behind⟩
  · simp only [run, List.length_append, List.length_replicate]
    omega

theorem accepts_question_star_iff {pattern name : List Char} :
    Accepts ('?' :: '*' :: pattern) name ↔ Accepts ('*' :: '?' :: pattern) name := by
  have notStar : '?' ≠ '*' := by decide
  simp only [accepts_star_iff, accepts_cons_iff notStar, true_or, true_and]
  constructor
  -- One character and a run behind it are a run and one character behind that.
  · rintro ⟨x, _, rfl, rest, ⟨run, rfl⟩, accepted⟩
    obtain ⟨start, last, shape⟩ := (List.eq_nil_or_concat (x :: run)).resolve_left (by simp)
    refine ⟨last :: rest, ⟨start, ?_⟩, last, rest, rfl, accepted⟩
    rw [← List.cons_append, shape, List.concat_eq_append, List.append_assoc, List.singleton_append]
  · rintro ⟨_, ⟨run, rfl⟩, x, rest, rfl, accepted⟩
    cases run with
    | nil => exact ⟨x, rest, rfl, rest, List.suffix_rfl, accepted⟩
    | cons first run => exact ⟨first, _, rfl, rest, ⟨run ++ [x], by simp⟩, accepted⟩

/-! ### Patterns compared with the texts of patterns -/

/-- A pattern takes the text of another one without a `?` that takes a `*`. Beside a `*` it does not
matter which of the characters the `?` takes. -/
inductive Generalizes : List Char → List Char → Prop
  | nil : Generalizes [] []
  | anyRun {pattern text} (run : List Char) :
      Generalizes pattern text → Generalizes ('*' :: pattern) (run ++ text)
  | anyChar {c pattern text} : c ≠ '*' →
      Generalizes pattern text → Generalizes ('?' :: pattern) (c :: text)
  | char {c pattern text} : c ≠ '*' → c ≠ '?' →
      Generalizes pattern text → Generalizes (c :: pattern) (c :: text)
  | later {pattern text} :
      Generalizes ('*' :: '?' :: pattern) text → Generalizes ('?' :: '*' :: pattern) text
  | sooner {pattern text} :
      Generalizes ('?' :: '*' :: pattern) text → Generalizes ('*' :: '?' :: pattern) text

theorem generalizes_self (pattern : List Char) : Generalizes pattern pattern := by
  induction pattern with
  | nil => exact .nil
  | cons c pattern ih =>
      by_cases star : c = '*'
      · subst star
        exact .anyRun ['*'] ih
      · by_cases question : c = '?'
        · subst question
          exact .anyChar star ih
        · exact .char star question ih

theorem Accepts.generalizes {general text : List Char} (covers : Accepts general text)
    (kept : '*' ∉ text ∨ '?' ∉ general) : Generalizes general text := by
  induction covers with
  | nil => exact .nil
  | anyRun run _ ih =>
      refine .anyRun run (ih ?_)
      rcases kept with noStar | noQuestion
      · exact .inl fun member => noStar (List.mem_append_right _ member)
      · exact .inr fun member => noQuestion (List.mem_cons_of_mem _ member)
  | anyChar c _ ih =>
      have noStar : '*' ∉ c :: _ := kept.resolve_right (fun absent => absent List.mem_cons_self)
      have notStar : c ≠ '*' := fun same => noStar (same ▸ List.mem_cons_self)
      exact .anyChar notStar (ih (.inl fun member => noStar (List.mem_cons_of_mem _ member)))
  | char notStar notQuestion _ ih =>
      refine .char notStar notQuestion (ih ?_)
      exact kept.imp (fun absent member => absent (List.mem_cons_of_mem _ member))
        (fun absent member => absent (List.mem_cons_of_mem _ member))

/-- A pattern that takes the text of another one takes all names that the other one takes, unless a
`?` had to take a `*` of the text: a `*` there stands for more than one character. -/
theorem Generalizes.accepts {general text name : List Char} (generalizes : Generalizes general text)
    (accepted : Accepts text name) : Accepts general name := by
  induction generalizes generalizing name with
  | nil => exact accepted
  | anyRun run _ ih =>
      obtain ⟨first, second, rfl, _, tail⟩ := accepts_append_iff.1 accepted
      exact .anyRun first (ih tail)
  | anyChar notStar _ ih =>
      obtain ⟨x, rest, rfl, _, tail⟩ := (accepts_cons_iff notStar).1 accepted
      exact .anyChar x (ih tail)
  | char notStar notQuestion _ ih =>
      obtain ⟨x, rest, rfl, taken, tail⟩ := (accepts_cons_iff notStar).1 accepted
      obtain rfl := taken.resolve_left notQuestion
      exact .char notStar notQuestion (ih tail)
  | later _ ih => exact accepts_question_star_iff.2 (ih accepted)
  | sooner _ ih => exact accepts_question_star_iff.1 (ih accepted)

end AdmissionPolicy.Pattern
