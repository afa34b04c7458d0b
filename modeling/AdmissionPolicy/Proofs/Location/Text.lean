import AdmissionPolicy.Location
import Mathlib.Data.String.Basic

/-!
Locations as they are shown. Fields and positions, under names that hold no marks, can be told from
the text: each step is shown by a word, and behind every word the text ends or a mark follows.
-/

namespace AdmissionPolicy.Location

/-- The characters that stand between the steps of a location. -/
def IsMark (c : Char) : Prop :=
  c = '.' ∨ c = '[' ∨ c = ']'

instance : DecidablePred IsMark :=
  fun c => inferInstanceAs (Decidable (c = '.' ∨ c = '[' ∨ c = ']'))

structure PlainName (name : String) : Prop where
  given : name ≠ ""
  notRoot : name ≠ "<root>"
  unmarked : ∀ c ∈ name.toList, ¬IsMark c

theorem plainName_iff {name : String} :
    PlainName name ↔
      name ≠ "" ∧ name ≠ "<root>" ∧ name.toList.all (fun c => decide ¬IsMark c) = true := by
  simp only [List.all_eq_true, decide_eq_true_eq]
  constructor
  · rintro ⟨given, notRoot, unmarked⟩
    exact ⟨given, notRoot, unmarked⟩
  · rintro ⟨given, notRoot, unmarked⟩
    exact ⟨given, notRoot, unmarked⟩

instance (name : String) : Decidable (PlainName name) :=
  decidable_of_iff' _ plainName_iff

/-- Keys of maps are not plain: they can hold any text. -/
inductive Step.Plain : Step → Prop
  | field {name : String} : PlainName name → (field name).Plain
  | index (position : Nat) : (index position).Plain

def Plain (place : Location) : Prop :=
  ∀ step ∈ place.steps, step.Plain

theorem plain_root : root.Plain :=
  List.forall_mem_nil _

theorem Plain.extend {place : Location} {step : Step} (plain : place.Plain)
    (stepPlain : step.Plain) : (place.extend step).Plain :=
  List.forall_mem_append.2 ⟨plain, List.forall_mem_singleton.2 stepPlain⟩

theorem Plain.child {place : Location} {name : String} (plain : place.Plain)
    (plainName : PlainName name) : (place.child name).Plain :=
  plain.extend (.field plainName)

theorem Plain.index {place : Location} (plain : place.Plain) (position : Nat) :
    (place.index position).Plain :=
  plain.extend (.index position)

/-! ### Characters of a text -/

theorem Step.field_text_toList (name : String) : (field name).text.toList = '.' :: name.toList := by
  simp [text]

theorem Step.index_text_toList (position : Nat) :
    (index position).text.toList = '[' :: (Nat.toDigits 10 position ++ [']']) := by
  simp [text]

theorem text_toList (first : Step) (further : List Step) :
    (text ⟨first :: further⟩).toList =
      first.firstText.toList ++ further.flatMap (·.text.toList) := by
  simp [text, String.toList_join, List.flatMap_map]

theorem not_isMark_of_mem_digits {position : Nat} {c : Char}
    (member : c ∈ Nat.toDigits 10 position) : ¬IsMark c := by
  have digit := Nat.isDigit_of_mem_toDigits (by decide) (by decide) member
  rintro (rfl | rfl | rfl)
  · exact absurd digit (by decide)
  · exact absurd digit (by decide)
  · exact absurd digit (by decide)

theorem digits_injective {position other : Nat}
    (same : Nat.toDigits 10 position = Nat.toDigits 10 other) : position = other := by
  rw [← Nat.ofDigitChars_ten_toDigits (n := position), same, Nat.ofDigitChars_ten_toDigits]

/-! ### Words in front of a mark -/

/-- The text is at its end, or a mark comes next. -/
def Marked (rest : List Char) : Prop :=
  ∀ c ∈ rest.head?, IsMark c

theorem marked_nil : Marked [] := by
  simp [Marked]

theorem marked_cons {c : Char} (mark : IsMark c) (rest : List Char) : Marked (c :: rest) := by
  simpa [Marked] using mark

/-- Behind the first step, every step begins with a mark. -/
theorem Step.text_eq_cons (step : Step) :
    ∃ c characters, IsMark c ∧ step.text.toList = c :: characters := by
  cases step with
  | field name => exact ⟨'.', _, .inl rfl, field_text_toList name⟩
  | index position => exact ⟨'[', _, .inr (.inl rfl), index_text_toList position⟩
  | key name => exact ⟨'[', name.toList ++ [']'], .inr (.inl rfl), by simp [text]⟩

theorem marked_texts (steps : List Step) : Marked (steps.flatMap (·.text.toList)) := by
  cases steps with
  | nil => exact marked_nil
  | cons step steps =>
      obtain ⟨c, characters, mark, shown⟩ := step.text_eq_cons
      rw [List.flatMap_cons, shown]
      exact marked_cons mark _

theorem texts_ne_nil (step : Step) (steps : List Step) :
    (step :: steps).flatMap (·.text.toList) ≠ [] := by
  obtain ⟨c, characters, -, shown⟩ := step.text_eq_cons
  simp [shown]

theorem word_append_injective {word other rest behind : List Char}
    (unmarked : ∀ c ∈ word, ¬IsMark c) (otherUnmarked : ∀ c ∈ other, ¬IsMark c)
    (marked : Marked rest) (otherMarked : Marked behind)
    (same : word ++ rest = other ++ behind) : word = other ∧ rest = behind := by
  induction word generalizing other with
  | nil =>
      cases other with
      | nil => exact ⟨rfl, same⟩
      | cons c other =>
          rw [List.nil_append] at same
          subst same
          exact absurd (marked c rfl) (otherUnmarked c List.mem_cons_self)
  | cons c word ih =>
      cases other with
      | nil =>
          rw [List.nil_append] at same
          subst same
          exact absurd (otherMarked c rfl) (unmarked c List.mem_cons_self)
      | cons d other =>
          obtain ⟨rfl, sameRest⟩ := List.cons.inj same
          obtain ⟨rfl, rfl⟩ := ih (List.forall_mem_of_forall_mem_cons unmarked)
            (List.forall_mem_of_forall_mem_cons otherUnmarked) sameRest
          exact ⟨rfl, rfl⟩

/-! ### Steps and locations -/

theorem index_text_ne_name {name : String} (plain : PlainName name) {position : Nat}
    {rest behind : List Char} :
    (Step.index position).text.toList ++ rest ≠ name.toList ++ behind := by
  intro same
  rw [Step.index_text_toList] at same
  have opens : IsMark '[' := .inr (.inl rfl)
  cases characters : name.toList with
  | nil => exact plain.given (String.toList_eq_nil_iff.1 characters)
  | cons c others =>
      rw [characters] at same
      have first : '[' = c := (List.cons.inj same).1
      exact plain.unmarked c (by simp [characters]) (first ▸ opens)

section

variable {step other : Step} {rest behind : List Char}

theorem Step.text_append_injective (plain : step.Plain) (otherPlain : other.Plain)
    (marked : Marked rest) (otherMarked : Marked behind)
    (same : step.text.toList ++ rest = other.text.toList ++ behind) :
    step = other ∧ rest = behind := by
  cases plain with
  | field plain =>
      cases otherPlain with
      | field otherPlain =>
          simp only [field_text_toList, List.cons_append, List.cons.injEq, true_and] at same
          obtain ⟨names, rfl⟩ := word_append_injective plain.unmarked otherPlain.unmarked marked
            otherMarked same
          exact ⟨congrArg field (String.toList_injective names), rfl⟩
      | index position =>
          rw [field_text_toList, index_text_toList] at same
          exact absurd (List.cons.inj same).1 (by decide)
  | index position =>
      cases otherPlain with
      | field otherPlain =>
          rw [index_text_toList, field_text_toList] at same
          exact absurd (List.cons.inj same).1 (by decide)
      | index otherPosition =>
          simp only [index_text_toList, List.cons_append, List.append_assoc, List.nil_append,
            List.cons.injEq, true_and] at same
          -- The closing bracket is the mark behind the digits.
          have closes : IsMark ']' := .inr (.inr rfl)
          obtain ⟨digits, behindDigits⟩ := word_append_injective
            (fun _ => not_isMark_of_mem_digits) (fun _ => not_isMark_of_mem_digits)
            (marked_cons closes rest) (marked_cons closes behind) same
          exact ⟨congrArg index (digits_injective digits), (List.cons.inj behindDigits).2⟩

theorem Step.firstText_append_injective (plain : step.Plain) (otherPlain : other.Plain)
    (marked : Marked rest) (otherMarked : Marked behind)
    (same : step.firstText.toList ++ rest = other.firstText.toList ++ behind) :
    step = other ∧ rest = behind := by
  cases plain with
  | field plain =>
      cases otherPlain with
      | field otherPlain =>
          refine text_append_injective (.field plain) (.field otherPlain) marked otherMarked ?_
          rw [field_text_toList, field_text_toList]
          exact congrArg ('.' :: ·) same
      | index position => exact absurd same.symm (index_text_ne_name plain)
  | index position =>
      cases otherPlain with
      | field otherPlain => exact absurd same (index_text_ne_name otherPlain)
      | index otherPosition =>
          exact text_append_injective (.index _) (.index _) marked otherMarked same

end

theorem texts_injective {steps others : List Step} (plain : ∀ step ∈ steps, step.Plain)
    (otherPlain : ∀ step ∈ others, step.Plain)
    (same : steps.flatMap (·.text.toList) = others.flatMap (·.text.toList)) : steps = others := by
  -- The mark that opens the next step ends the word of this one.
  induction steps generalizing others with
  | nil =>
      cases others with
      | nil => rfl
      | cons other others => exact absurd same.symm (texts_ne_nil other others)
  | cons step steps ih =>
      cases others with
      | nil => exact absurd same (texts_ne_nil step steps)
      | cons other others =>
          obtain ⟨stepPlain, restPlain⟩ := List.forall_mem_cons.1 plain
          obtain ⟨otherStepPlain, behindPlain⟩ := List.forall_mem_cons.1 otherPlain
          obtain ⟨rfl, sameRest⟩ := Step.text_append_injective stepPlain otherStepPlain
            (marked_texts steps) (marked_texts others) same
          rw [ih restPlain behindPlain sameRest]

theorem text_ne_root {first : Step} {further : List Step} (plain : first.Plain) :
    text ⟨first :: further⟩ ≠ "<root>" := by
  intro same
  have shown := congrArg String.toList same
  rw [text_toList] at shown
  cases plain with
  | field plain =>
      have unmarked : ∀ c ∈ "<root>".toList, ¬IsMark c := by
        simp [IsMark]
      rw [← List.append_nil "<root>".toList] at shown
      obtain ⟨names, -⟩ := word_append_injective plain.unmarked unmarked (marked_texts further)
        marked_nil shown
      exact plain.notRoot (String.toList_injective names)
  | index position =>
      have opened : (Step.index position).text.toList ++ _ = "<root>".toList := shown
      rw [Step.index_text_toList] at opened
      exact absurd (List.cons.inj opened).1 (by decide)

/-- What is shown tells plain places apart. -/
theorem text_injective {place other : Location} (plain : place.Plain) (otherPlain : other.Plain)
    (same : place.text = other.text) : place = other := by
  obtain ⟨steps⟩ := place
  obtain ⟨others⟩ := other
  cases steps with
  | nil =>
      cases others with
      | nil => rfl
      | cons other others =>
          exact absurd same.symm (text_ne_root (otherPlain other List.mem_cons_self))
  | cons step steps =>
      obtain ⟨stepPlain, restPlain⟩ := List.forall_mem_cons.1 plain
      cases others with
      | nil => exact absurd same (text_ne_root stepPlain)
      | cons other others =>
          obtain ⟨otherStepPlain, behindPlain⟩ := List.forall_mem_cons.1 otherPlain
          have shown := congrArg String.toList same
          rw [text_toList, text_toList] at shown
          obtain ⟨rfl, sameRest⟩ := Step.firstText_append_injective stepPlain otherStepPlain
            (marked_texts steps) (marked_texts others) shown
          rw [texts_injective restPlain behindPlain sameRest]

-- A key can be shown as a position is, so keys are not told apart.
example : ((ofField "labels").key "0").text = ((ofField "labels").index 0).text := by decide

end AdmissionPolicy.Location
