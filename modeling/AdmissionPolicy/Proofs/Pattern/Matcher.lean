import AdmissionPolicy.Proofs.Pattern.Language

/-!
Name patterns are matched by way of glob patterns. Every pattern has a glob, the glob never asks for
whole path components, and comparing a name with it decides the language of the pattern.
-/

namespace AdmissionPolicy

namespace Glob

/-! ### Compiling what a name pattern can turn into -/

theorem compileFrom_star (position : Nat) (previous : Option Char) (tokens : List Token)
    {rest : List Char} (single : ∀ more, rest ≠ '*' :: more) :
    compileFrom position previous tokens ('*' :: rest) =
      compileFrom (position + 1) (some '*') (.anyRun :: tokens) rest := by
  rw [compileFrom]
  · intro more
    exact single _
  · exact single _
  · intro next more
    exact single _

theorem compileFrom_question (position : Nat) (previous : Option Char) (tokens : List Token)
    (rest : List Char) :
    compileFrom position previous tokens ('?' :: rest) =
      compileFrom (position + 1) (some '?') (.one .anyChar :: tokens) rest := by
  rw [compileFrom]

theorem compileFrom_quoted (position : Nat) (previous : Option Char) (tokens : List Token)
    {bracket : Char} (rest : List Char) (isBracket : bracket = '[' ∨ bracket = ']') :
    compileFrom position previous tokens ('[' :: bracket :: ']' :: rest) =
      compileFrom (position + 3) (some ']') (.one (.oneOf [.single bracket]) :: tokens) rest := by
  rw [compileFrom]
  rcases isBracket with rfl | rfl
  · simp [charRanges]
  · simp [charRanges]

theorem compileFrom_char (position : Nat) (previous : Option Char) (tokens : List Token)
    {c : Char} (rest : List Char) (notStar : c ≠ '*') (notQuestion : c ≠ '?')
    (notBracket : c ≠ '[') :
    compileFrom position previous tokens (c :: rest) =
      compileFrom (position + 1) (some c) (.one (.char c) :: tokens) rest := by
  rw [compileFrom]
  all_goals grind

end Glob

namespace Pattern

/-- A pattern with one `*` for every run of them. The flag says whether a `*` went before. -/
def collapse (afterStar : Bool) : List Char → List Char
  | [] => []
  | c :: rest =>
      if c = '*' then if afterStar then collapse true rest else '*' :: collapse true rest
      else c :: collapse false rest

def oneToken (c : Char) : Glob.One :=
  if c = '?' then .anyChar
  else if c = '[' ∨ c = ']' then .oneOf [.single c]
  else .char c

def token (c : Char) : Glob.Token :=
  if c = '*' then .anyRun else .one (oneToken c)

theorem oneToken_accepts_iff {c x : Char} :
    (oneToken c).accepts x = true ↔ c = '?' ∨ c = x := by
  unfold oneToken
  by_cases question : c = '?'
  · simp [question, Glob.One.accepts]
  · by_cases bracket : c = '[' ∨ c = ']'
    · simp [question, bracket, Glob.One.accepts, CharRange.contains]
    · simp [question, bracket, Glob.One.accepts]

theorem toGlob_ne_star (pattern more : List Char) : toGlob true pattern ≠ '*' :: more := by
  generalize after : true = afterStar
  fun_induction toGlob afterStar pattern with
  | case1 => simp
  | case2 rest ih => exact ih after
  | case3 afterStar rest notAfter => exact absurd after.symm notAfter
  | case4 => simp
  | case5 => simp
  | case6 afterStar c rest notStar =>
      intro same
      injection same with first
      exact notStar first

/-- Every name pattern compiles, to one part for each character that is left after collapsing. -/
theorem compileFrom_toGlob (afterStar : Bool) (pattern : List Char) (position : Nat)
    (previous : Option Char) (tokens : List Glob.Token) :
    Glob.compileFrom position previous tokens (toGlob afterStar pattern) =
      .ok (tokens.reverse ++ (collapse afterStar pattern).map token) := by
  fun_induction toGlob afterStar pattern generalizing position previous tokens with
  | case1 => simp [Glob.compileFrom, collapse]
  | case2 rest ih =>
      rw [ih]
      simp [collapse]
  | case3 afterStar rest notAfter ih =>
      rw [Glob.compileFrom_star _ _ _ (toGlob_ne_star rest), ih]
      simp [collapse, notAfter, token]
  | case4 afterStar rest ih =>
      rw [Glob.compileFrom_quoted _ _ _ _ (.inl rfl), ih]
      simp [collapse, token, oneToken]
  | case5 afterStar rest ih =>
      rw [Glob.compileFrom_quoted _ _ _ _ (.inr rfl), ih]
      simp [collapse, token, oneToken]
  | case6 afterStar c rest notStar notOpen notClose ih =>
      by_cases question : c = '?'
      · subst question
        rw [Glob.compileFrom_question, ih]
        simp [collapse, token, oneToken]
      · rw [Glob.compileFrom_char _ _ _ _ notStar question notOpen, ih]
        have notBracket : ¬(c = '[' ∨ c = ']') := not_or.2 ⟨notOpen, notClose⟩
        have notStar' : c ≠ '*' := notStar
        simp [collapse, token, oneToken, notStar', question, notBracket]

theorem compile_eq_ok (pattern : String) :
    compile pattern = .ok ((collapse false pattern.toList).map token) := by
  rw [compile, Glob.compile, compileFrom_toGlob]
  rfl

/-! ### Comparing a name with a glob -/

/-- What the outcome of a comparison says about a pattern. A name that is exhausted has no end that
belongs to the pattern, so no longer run of an earlier `*` helps. -/
def Settles (pattern name : List Char) : Glob.Outcome → Prop
  | .matched => Accepts pattern name
  | .mismatch => ¬Accepts pattern name
  | .exhausted => ∀ rest, rest <:+ name → ¬Accepts pattern rest

theorem Settles.matched_iff {pattern name : List Char} {outcome : Glob.Outcome}
    (settles : Settles pattern name outcome) : outcome = .matched ↔ Accepts pattern name := by
  cases outcome with
  | matched => simpa [Settles] using settles
  | mismatch => simpa [Settles] using settles
  | exhausted =>
      have rejected := settles name List.suffix_rfl
      simpa using rejected

theorem Settles.star_exhausted {pattern name : List Char}
    (settles : Settles pattern name .exhausted) : Settles ('*' :: pattern) name .exhausted := by
  intro rest outer accepted
  obtain ⟨last, inner, tail⟩ := accepts_star_iff.1 accepted
  exact settles last (inner.trans outer) tail

theorem Settles.star_cons {c : Char} {pattern name : List Char} {outcome : Glob.Outcome}
    (rejected : ¬Accepts pattern (c :: name)) (settles : Settles ('*' :: pattern) name outcome) :
    Settles ('*' :: pattern) (c :: name) outcome := by
  -- The name itself does not do, so the run that the `*` takes is not empty.
  have shorter : Accepts ('*' :: pattern) (c :: name) → Accepts ('*' :: pattern) name := by
    intro accepted
    obtain ⟨rest, suffix, tail⟩ := accepts_star_iff.1 accepted
    rcases List.suffix_cons_iff.1 suffix with rfl | inner
    · exact absurd tail rejected
    · exact accepts_star_iff.2 ⟨rest, inner, tail⟩
  cases outcome with
  | matched =>
      obtain ⟨rest, suffix, tail⟩ := accepts_star_iff.1 settles
      exact accepts_star_iff.2 ⟨rest, suffix.trans (List.suffix_cons c name), tail⟩
  | mismatch => exact fun accepted => settles (shorter accepted)
  | exhausted =>
      intro rest suffix accepted
      rcases List.suffix_cons_iff.1 suffix with rfl | inner
      · exact settles name List.suffix_rfl (shorter accepted)
      · exact settles rest inner accepted

theorem Settles.one_cons {c x : Char} {pattern name : List Char} {outcome : Glob.Outcome}
    (settles : Settles pattern name outcome) (notStar : c ≠ '*') (taken : c = '?' ∨ c = x) :
    Settles (c :: pattern) (x :: name) outcome := by
  cases outcome with
  | matched => exact (accepts_cons_iff notStar).2 ⟨x, name, rfl, taken, settles⟩
  | mismatch =>
      intro accepted
      obtain ⟨y, rest, same, _, tail⟩ := (accepts_cons_iff notStar).1 accepted
      injection same with _ same
      exact settles (same ▸ tail)
  | exhausted =>
      intro rest suffix accepted
      obtain ⟨y, last, rfl, _, tail⟩ := (accepts_cons_iff notStar).1 accepted
      have inner : last <:+ name := by
        rcases List.suffix_cons_iff.1 suffix with same | later
        · injection same with _ same
          exact same ▸ List.suffix_rfl
        · exact (List.suffix_cons y last).trans later
      exact settles last inner tail

theorem tryTails_settles {pattern : List Char} {attempt : List Char → Glob.Outcome}
    (settles : ∀ name, Settles pattern name (attempt name)) (name : List Char) :
    Settles ('*' :: pattern) name (Glob.tryTails attempt name) := by
  induction name with
  | nil =>
      have tried := settles []
      rw [Glob.tryTails]
      cases outcome : attempt [] with
      | matched =>
          rw [outcome] at tried
          exact .anyRun [] tried
      | mismatch =>
          rw [outcome] at tried
          intro accepted
          obtain ⟨rest, suffix, tail⟩ := accepts_star_iff.1 accepted
          obtain rfl := List.suffix_nil.1 suffix
          exact tried tail
      | exhausted =>
          rw [outcome] at tried
          exact tried.star_exhausted
  | cons c name ih =>
      have tried := settles (c :: name)
      rw [Glob.tryTails]
      cases outcome : attempt (c :: name) with
      | matched =>
          rw [outcome] at tried
          exact .anyRun [] tried
      | mismatch =>
          rw [outcome] at tried
          exact ih.star_cons tried
      | exhausted =>
          rw [outcome] at tried
          exact tried.star_exhausted

theorem run_settles (pattern name : List Char) :
    Settles pattern name (Glob.run (pattern.map token) name) := by
  induction pattern generalizing name with
  | nil =>
      cases name with
      | nil => exact .nil
      | cons c name =>
          intro accepted
          cases accepted
  | cons c pattern ih =>
      rw [List.map_cons]
      by_cases star : c = '*'
      · subst star
        exact tryTails_settles ih name
      · have isOne : token c = .one (oneToken c) := by simp [token, star]
        rw [isOne]
        cases name with
        -- The name ends while a character is still wanted, so no end of it does either.
        | nil =>
            intro rest suffix accepted
            obtain rfl := List.suffix_nil.1 suffix
            obtain ⟨x, rest, wrong, _⟩ := (accepts_cons_iff star).1 accepted
            cases wrong
        | cons x name =>
            rw [Glob.run]
            by_cases taken : (oneToken c).accepts x = true
            · rw [if_pos taken]
              exact (ih name).one_cons star (oneToken_accepts_iff.1 taken)
            · rw [if_neg taken]
              intro accepted
              obtain ⟨y, rest, same, fits, _⟩ := (accepts_cons_iff star).1 accepted
              injection same with first
              exact taken (oneToken_accepts_iff.2 (first ▸ fits))

/-! ### What the matcher decides -/

theorem accepts_cons_congr {pattern other : List Char}
    (same : ∀ name, Accepts pattern name ↔ Accepts other name) (c : Char) (name : List Char) :
    Accepts (c :: pattern) name ↔ Accepts (c :: other) name := by
  by_cases star : c = '*'
  · subst star
    simp only [accepts_star_iff, same]
  · simp only [accepts_cons_iff star, same]

theorem accepts_collapse_iff (pattern : List Char) :
    (∀ name, Accepts (collapse false pattern) name ↔ Accepts pattern name) ∧
      ∀ name, Accepts ('*' :: collapse true pattern) name ↔ Accepts ('*' :: pattern) name := by
  -- The second half speaks of the text behind a `*`, where further ones are dropped.
  induction pattern with
  | nil => simp [collapse]
  | cons c rest ih =>
      obtain ⟨plain, behindStar⟩ := ih
      by_cases star : c = '*'
      · subst star
        simp only [collapse, if_true, Bool.false_eq_true, if_false]
        refine ⟨behindStar, fun name => ?_⟩
        rw [accepts_star_star_iff]
        exact behindStar name
      · simp only [collapse, star, if_false]
        have kept := accepts_cons_congr plain c
        exact ⟨kept, accepts_cons_congr kept '*'⟩

theorem run_matched_iff (pattern name : List Char) :
    Glob.run ((collapse false pattern).map token) name = .matched ↔ Accepts pattern name := by
  rw [(run_settles _ name).matched_iff]
  exact (accepts_collapse_iff pattern).1 name

theorem matchesName_eq_true_iff {pattern name : String} :
    matchesName pattern name = true ↔ Accepts pattern.toList name.toList := by
  unfold matchesName
  by_cases noPattern : pattern = ""
  · subst noPattern
    simp [accepts_nil_iff]
  · by_cases star : pattern = "*"
    · subst star
      have accepted : Accepts ['*'] name.toList :=
        accepts_star_iff.2 ⟨[], List.nil_suffix, .nil⟩
      simpa using accepted
    · simp [noPattern, star, compile_eq_ok, run_matched_iff]

theorem matchesName_star_star (before after name : String) :
    matchesName (before ++ "**" ++ after) name = matchesName (before ++ "*" ++ after) name := by
  rw [Bool.eq_iff_iff, matchesName_eq_true_iff, matchesName_eq_true_iff]
  simp only [String.toList_append, List.append_assoc]
  change Accepts (before.toList ++ '*' :: '*' :: after.toList) name.toList ↔
    Accepts (before.toList ++ '*' :: after.toList) name.toList
  simp only [accepts_append_iff, accepts_star_star_iff]

theorem matchesName_of_matchesName_empty {pattern : String} (given : pattern ≠ "")
    (accepted : matchesName pattern "" = true) (name : String) :
    matchesName pattern name = true := by
  rw [matchesName_eq_true_iff] at accepted ⊢
  cases text : pattern.toList with
  | nil => exact absurd (String.toList_eq_nil_iff.1 text) given
  | cons c rest =>
      rw [text] at accepted
      by_cases star : c = '*'
      · subst star
        obtain ⟨last, suffix, tail⟩ := accepts_star_iff.1 accepted
        obtain rfl := List.suffix_nil.1 suffix
        exact accepts_star_iff.2 ⟨[], List.nil_suffix, tail⟩
      · obtain ⟨x, last, wrong, _⟩ := (accepts_cons_iff star).1 accepted
        cases wrong

/-- Whether matching a pattern against the text of another pattern tells something about the names
of the other one: no `?` may take a `*` there. -/
def ComparesText (general text : String) : Prop :=
  general = text ∨ '*' ∉ text.toList ∨ '?' ∉ general.toList

instance (general text : String) : Decidable (ComparesText general text) :=
  inferInstanceAs (Decidable (_ ∨ _ ∨ _))

def GeneralizesText (general text : String) : Prop :=
  Generalizes general.toList text.toList

theorem matchesName_of_generalizesText {general text name : String}
    (generalizes : GeneralizesText general text) (accepted : matchesName text name = true) :
    matchesName general name = true := by
  rw [matchesName_eq_true_iff] at accepted ⊢
  exact generalizes.accepts accepted

theorem ComparesText.generalizesText {general text : String} (compares : ComparesText general text)
    (covers : matchesName general text = true) : GeneralizesText general text := by
  rcases compares with rfl | kept
  · exact generalizes_self _
  · exact (matchesName_eq_true_iff.1 covers).generalizes kept

/-- Name patterns are matched exactly as they are documented, by the glob that every pattern has as
well as by the two rules that need no glob; and a `*` in front of another one changes nothing. -/
theorem matchesName_iff_accepts (pattern name : String) :
    (matchesName pattern name = true ↔ Accepts pattern.toList name.toList) ∧
      (∃ tokens, compile pattern = .ok tokens ∧
        (Glob.run tokens name.toList = .matched ↔ Accepts pattern.toList name.toList)) ∧
      ∀ before after : String,
        matchesName (before ++ "**" ++ after) name = matchesName (before ++ "*" ++ after) name := by
  refine ⟨matchesName_eq_true_iff, ⟨_, compile_eq_ok pattern, run_matched_iff _ _⟩, ?_⟩
  intro before after
  exact matchesName_star_star before after name

end Pattern

end AdmissionPolicy
