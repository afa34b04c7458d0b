import AdmissionPolicy.Proofs.Coverage.Analysis
import AdmissionPolicy.Proofs.Pattern.Matcher

/-!
Blocks that give name patterns only. A pattern of the exclude block is matched against the text of a
pattern of the match block, which says something about names as long as no `?` takes a `*` there.
-/

namespace AdmissionPolicy

namespace Pattern

def TakesAll (patterns texts : List String) : Prop :=
  ∀ name, (∃ text ∈ texts, matchesName text name = true) →
    ∃ pattern ∈ patterns, matchesName pattern name = true

/-- What is taken as a text is taken without a `?` that takes a `*`. -/
def ComparesTexts (patterns texts : List String) : Prop :=
  ∀ text ∈ texts, (∃ pattern ∈ patterns, matchesName pattern text = true) →
    ∃ pattern ∈ patterns, GeneralizesText pattern text

theorem comparesTexts_of_forall {patterns texts : List String}
    (compares : ∀ pattern ∈ patterns, ∀ text ∈ texts, ComparesText pattern text) :
    ComparesTexts patterns texts := by
  rintro text member ⟨pattern, listed, covers⟩
  exact ⟨pattern, listed, (compares pattern listed text member).generalizesText covers⟩

theorem takesAll_of_comparesTexts {patterns texts : List String}
    (compares : ComparesTexts patterns texts)
    (covered : Coverage.coversNames patterns texts = true) : TakesAll patterns texts := by
  rintro name ⟨text, member, taken⟩
  obtain ⟨-, contained⟩ := Coverage.coversNames_eq_true_iff.1 covered
  obtain ⟨pattern, listed, generalizes⟩ := compares text member (contained text member)
  exact ⟨pattern, listed, matchesName_of_generalizesText generalizes taken⟩

theorem exists_longer_than_all (patterns : List String) :
    ∃ length, ∀ pattern ∈ patterns, pattern.toList.length < length := by
  induction patterns with
  | nil => exact ⟨0, List.forall_mem_nil _⟩
  | cons pattern rest ih =>
      obtain ⟨length, longer⟩ := ih
      refine ⟨max length (pattern.toList.length + 1), List.forall_mem_cons.2 ⟨by omega, ?_⟩⟩
      intro other member
      have bound := longer other member
      omega

theorem matchesName_length_eq {pattern name : String} (noStar : '*' ∉ pattern.toList)
    (taken : matchesName pattern name = true) : name.toList.length = pattern.toList.length :=
  (matchesName_eq_true_iff.1 taken).length_eq noStar

theorem exists_matchesName_longer {text : String} (star : '*' ∈ text.toList) (length : Nat) :
    ∃ name, matchesName text name = true ∧ length < name.toList.length := by
  obtain ⟨longer, accepted, bound⟩ := exists_accepts_longer star length
  refine ⟨String.ofList longer, ?_, ?_⟩
  · rw [matchesName_eq_true_iff, String.toList_ofList]
    exact accepted
  · rwa [String.toList_ofList]

theorem takesAll_iff_of_no_star {patterns texts : List String}
    (noStar : ∀ pattern ∈ patterns, '*' ∉ pattern.toList)
    (covered : Coverage.coversNames patterns texts = true) :
    TakesAll patterns texts ↔ ∀ text ∈ texts, '*' ∉ text.toList := by
  constructor
  -- Each pattern takes names of one length only, and a text with a `*` takes longer ones than all.
  · intro takesAll text member star
    obtain ⟨length, longer⟩ := exists_longer_than_all patterns
    obtain ⟨name, taken, bound⟩ := exists_matchesName_longer star length
    obtain ⟨pattern, listed, accepted⟩ := takesAll name ⟨text, member, taken⟩
    have same := matchesName_length_eq (noStar pattern listed) accepted
    have shorter := longer pattern listed
    omega
  · intro noStarInTexts
    refine takesAll_of_comparesTexts (comparesTexts_of_forall ?_) covered
    exact fun _ _ text member => .inr (.inl (noStarInTexts text member))

end Pattern

/-- The filter gives these name patterns, in one of the two fields for them, and nothing else. -/
inductive Filter.NamesOnly : Filter → List String → Prop
  | name (pattern : String) : NamesOnly (Filter.empty.withName pattern) [pattern]
  | names (patterns : List String) : NamesOnly (Filter.empty.withNames patterns) patterns

namespace Coverage

variable {matched excluded : Filter} {texts patterns : List String}

theorem names_of_analyze_eq_empty
    (proved : analyze (.ofFilter matched) (.ofFilter excluded) = .empty) :
    excluded ≠ .empty ∧
      (excluded.resources.name = "" ∨
        Pattern.matchesName excluded.resources.name matched.resources.name = true) ∧
      (excluded.resources.names ≠ [] →
        coversNames excluded.resources.names matched.resources.names = true) := by
  obtain ⟨given, passed⟩ := analyze_ofFilter_eq_empty_iff.1 proved
  obtain ⟨leading, -, named⟩ := checks_passed_iff.1 passed
  obtain ⟨-, -, -, name⟩ := leadingChecks_passed_iff.1 leading
  exact ⟨given, name, named⟩

theorem coversNames_of_analyze_eq_empty (matchNames : matched.NamesOnly texts)
    (excludeNames : excluded.NamesOnly patterns) (given : texts ≠ [])
    (proved : analyze (.ofFilter matched) (.ofFilter excluded) = .empty) :
    coversNames patterns texts = true := by
  obtain ⟨excludeGiven, name, names⟩ := names_of_analyze_eq_empty proved
  rw [coversNames_eq_true_iff]
  refine ⟨given, ?_⟩
  cases excludeNames with
  | name pattern =>
      have patternGiven : pattern ≠ "" := by
        rintro rfl
        exact excludeGiven rfl
      have covers := name.resolve_left patternGiven
      intro text member
      refine ⟨pattern, List.mem_cons_self, ?_⟩
      cases matchNames with
      | name only =>
          obtain rfl := List.mem_singleton.1 member
          exact covers
      -- The match block has no name here, and a pattern that takes the empty text takes all.
      | names => exact Pattern.matchesName_of_matchesName_empty patternGiven covers text
  | names patterns =>
      have patternsGiven : patterns ≠ [] := by
        rintro rfl
        exact excludeGiven rfl
      obtain ⟨namesGiven, contained⟩ := coversNames_eq_true_iff.1 (names patternsGiven)
      cases matchNames with
      | name only => exact absurd rfl namesGiven
      | names => exact contained

/-- What is proved about blocks of names: the exclude block takes every name that the match block
takes if no `?` of it had to take a `*`. If the exclude block has no `*` at all, it takes them
exactly if the match block has none. -/
theorem analyze_names_sound (matchNames : matched.NamesOnly texts)
    (excludeNames : excluded.NamesOnly patterns)
    (proved : analyze (.ofFilter matched) (.ofFilter excluded) = .empty) :
    (Pattern.ComparesTexts patterns texts → Pattern.TakesAll patterns texts) ∧
      ((∀ pattern ∈ patterns, '*' ∉ pattern.toList) →
        (Pattern.TakesAll patterns texts ↔ ∀ text ∈ texts, '*' ∉ text.toList)) := by
  by_cases given : texts = []
  · subst given
    simp [Pattern.TakesAll]
  · have covered := coversNames_of_analyze_eq_empty matchNames excludeNames given proved
    constructor
    · intro compares
      exact Pattern.takesAll_of_comparesTexts compares covered
    · intro noStar
      exact Pattern.takesAll_iff_of_no_star noStar covered

theorem comparesTexts_services : Pattern.ComparesTexts ["db-?", "?*"] ["web-*", "db-1"] := by
  rw [Pattern.ComparesTexts, List.forall_mem_cons, List.forall_mem_singleton]
  have first : Pattern.GeneralizesText "?*" "web-*" :=
    .anyChar (by decide) (.anyRun ['e', 'b', '-', '*'] .nil)
  have numbered : Pattern.ComparesText "db-?" "db-1" := by decide
  constructor
  · exact fun _ => ⟨"?*", by decide, first⟩
  · exact fun _ => ⟨"db-?", by decide, numbered.generalizesText (by decide +kernel)⟩

theorem analyze_names_sound_services :
    Pattern.TakesAll ["db-?", "?*"] ["web-*", "db-1"] ∧ ¬Pattern.TakesAll ["db-?"] ["db-*"] := by
  constructor
  · have sound := analyze_names_sound (.names ["web-*", "db-1"]) (.names ["db-?", "?*"])
    exact (sound (by decide +kernel)).1 comparesTexts_services
  · rw [(analyze_names_sound (.name "db-*") (.name "db-?") (by decide +kernel)).2 (by decide)]
    decide

theorem analyze_names_miss_wildcards :
    (analyze (.ofFilter (Filter.empty.withName "*")) (.ofFilter (Filter.empty.withName "?")) =
          .empty ∧
        analyze (.ofFilter (Filter.empty.withNames ["*"]))
          (.ofFilter (Filter.empty.withNames ["?"])) = .empty) ∧
      Pattern.matchesName "*" "db" = true ∧ Pattern.matchesName "?" "db" = false := by
  refine ⟨⟨?_, ?_⟩, ?_, ?_⟩ <;> decide +kernel

end Coverage

end AdmissionPolicy
