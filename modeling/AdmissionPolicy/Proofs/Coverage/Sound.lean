import AdmissionPolicy.Proofs.Coverage.Meaning
import AdmissionPolicy.Proofs.Coverage.Names
import AdmissionPolicy.Proofs.Selector.WellFormed

/-!
A match block that is proved to be covered selects nothing that the exclude block lets through,
whatever the single values mean.
-/

namespace AdmissionPolicy

universe u v

/-! ### Single dimensions -/

theorem AcceptsList.of_coversList {α : Type} [BEq α] [LawfulBEq α] {accepts : α → Prop}
    {excluded matched : List α} (covered : Coverage.coversList excluded matched = true)
    (accepted : AcceptsList accepts matched) : AcceptsList accepts excluded := by
  rcases Coverage.coversList_eq_true_iff.1 covered with none | ⟨given, contained⟩
  · exact .inl none
  · obtain ⟨value, member, fits⟩ := accepted.resolve_left given
    exact .inr ⟨value, contained value member, fits⟩

theorem AcceptsName.of_matchesName {excluded matched name : String}
    (compares : Pattern.ComparesTexts [excluded] [matched])
    (covered : excluded = "" ∨ Pattern.matchesName excluded matched = true)
    (accepted : AcceptsName matched name) : AcceptsName excluded name := by
  by_cases given : excluded = ""
  · exact .inl given
  · have covers := covered.resolve_left given
    rcases accepted with rfl | taken
    -- Nothing but runs of `*` takes the empty text that stands for no pattern.
    · exact .inr (Pattern.matchesName_of_matchesName_empty given covers name)
    · obtain ⟨pattern, listed, generalizes⟩ :=
        compares matched List.mem_cons_self ⟨excluded, List.mem_cons_self, covers⟩
      obtain rfl := List.mem_singleton.1 listed
      exact .inr (Pattern.matchesName_of_generalizesText generalizes taken)

theorem AcceptsList.of_coversNames {excluded matched : List String} {name : String}
    (compares : Pattern.ComparesTexts excluded matched)
    (covered : Coverage.coversNames excluded matched = true)
    (accepted : AcceptsList (Pattern.matchesName · name = true) matched) :
    AcceptsList (Pattern.matchesName · name = true) excluded := by
  have given := (Coverage.coversNames_eq_true_iff.1 covered).1
  have takesAll := Pattern.takesAll_of_comparesTexts compares covered
  exact .inr (takesAll name (accepted.resolve_left given))

theorem LabelMeaning.Accepts.of_coversLabels {Request : Type u} {meaning : LabelMeaning Request}
    {request : Request} {excluded matched : Option LabelSelector}
    (covered : excluded.all LabelSelector.isEmpty = true ∨
      Coverage.coversLabels excluded matched = true)
    (accepted : meaning.Accepts request matched) : meaning.Accepts request excluded := by
  cases excluded with
  | none => trivial
  | some excluded =>
      rcases covered with empty | covers
      · obtain rfl := LabelSelector.isEmpty_iff.1 empty
        exact ⟨List.forall_mem_nil _, List.forall_mem_nil _⟩
      · cases matched with
        | none => cases covers
        | some matched =>
            obtain ⟨requirements, labels⟩ := Coverage.coversLabels_some_iff.1 covers
            refine ⟨fun label member => ?_, fun requirement member => ?_⟩
            · exact accepted.1 label (labels label member)
            · exact accepted.2 requirement (requirements requirement member)

/-! ### Whole filters -/

/-- Every dimension behind the names is left open by the exclude block or covered by it. -/
structure ResourceCriteria.ClosingCovered (matched excluded : ResourceCriteria) : Prop where
  namespaces : Coverage.coversList excluded.namespaces matched.namespaces = true
  kinds : Coverage.coversList excluded.kinds matched.kinds = true
  labels : excluded.labels.all LabelSelector.isEmpty = true ∨
    Coverage.coversLabels excluded.labels matched.labels = true
  namespaceLabels : excluded.namespaceLabels.all LabelSelector.isEmpty = true ∨
    Coverage.coversLabels excluded.namespaceLabels matched.namespaceLabels = true
  annotations : excluded.annotations = none ∨ excluded.annotations = matched.annotations

structure ResourceCriteria.ComparesNames (matched excluded : ResourceCriteria) : Prop where
  name : Pattern.ComparesTexts [excluded.name] [matched.name]
  names : Pattern.ComparesTexts excluded.names matched.names

section

variable {Request : Type u} {meaning : Meaning Request} {request : Request}
  {matched excluded : Filter}

theorem ResourceCriteria.closingCovered_of_checks {matched excluded : ResourceCriteria}
    (passed : ∀ check ∈ Coverage.closingChecks matched excluded, check.2 = true) :
    matched.ClosingCovered excluded := by
  obtain ⟨namespaces, kinds, labels, namespaceLabels, annotations⟩ :=
    Coverage.closingChecks_passed_iff.1 passed
  exact ⟨namespaces, kinds, .inr labels, .inr namespaceLabels, .inr annotations⟩

theorem Meaning.AcceptsAnnotations.of_covered {excluded matched : Option (Dict String)}
    (covered : excluded = none ∨ excluded = matched)
    (accepted : meaning.AcceptsAnnotations request matched) :
    meaning.AcceptsAnnotations request excluded := by
  rcases covered with rfl | rfl
  · trivial
  · exact accepted

theorem Meaning.Accepts.of_checks
    (passed : ∀ check ∈ Coverage.checks matched excluded, check.2 = true)
    (compares : matched.resources.ComparesNames excluded.resources)
    (closing : matched.resources.names ≠ [] → excluded.resources.names ≠ [] →
      matched.resources.ClosingCovered excluded.resources)
    (accepted : meaning.Accepts matched request) : meaning.Accepts excluded request := by
  obtain ⟨leading, unnamed, named⟩ := Coverage.checks_passed_iff.1 passed
  obtain ⟨roles, clusterRoles, subjects, name⟩ := Coverage.leadingChecks_passed_iff.1 leading
  have behind : matched.resources.ClosingCovered excluded.resources := by
    by_cases noNames : excluded.resources.names = []
    · exact ResourceCriteria.closingCovered_of_checks (unnamed noNames)
    · have given := (Coverage.coversNames_eq_true_iff.1 (named noNames)).1
      exact closing given noNames
  have names : AcceptsList (Pattern.matchesName · (meaning.name request) = true)
      excluded.resources.names := by
    by_cases noNames : excluded.resources.names = []
    · exact .inl noNames
    · exact accepted.names.of_coversNames compares.names (named noNames)
  exact {
    roles := accepted.roles.of_coversList roles
    clusterRoles := accepted.clusterRoles.of_coversList clusterRoles
    subjects := accepted.subjects.of_coversList subjects
    name := accepted.name.of_matchesName compares.name name
    names := names
    namespaces := accepted.namespaces.of_coversList behind.namespaces
    kinds := accepted.kinds.of_coversList behind.kinds
    labels := accepted.labels.of_coversLabels behind.labels
    namespaceLabels := accepted.namespaceLabels.of_coversLabels behind.namespaceLabels
    annotations := accepted.annotations.of_covered behind.annotations
  }

/-! ### Whole blocks -/

/-- If a match block is proved to be covered, then every request that it selects is selected by the
exclude block, whatever the single values mean. -/
theorem selects_of_analyze_eq_empty {matching excluding : Selector}
    (oneForm : matching.OneForm) (alternatives : excluding.any ≠ [] → matching.any ≠ [])
    (compares : matching.direct.resources.ComparesNames excluding.direct.resources)
    (closing : matching.direct.resources.names ≠ [] → excluding.direct.resources.names ≠ [] →
      matching.direct.resources.ClosingCovered excluding.direct.resources)
    (covered : Coverage.analyze matching excluding = .empty)
    (selected : meaning.Selects matching request) : meaning.Selects excluding request := by
  obtain ⟨-, -, same | ⟨direct, -, passed⟩⟩ := Coverage.analyze_eq_empty_iff.1 covered
  · obtain ⟨matchAny, excludeAny, contained⟩ := same
    obtain ⟨entry, member, accepted⟩ := (Meaning.selects_of_any_ne_nil matchAny).1 selected
    exact (Meaning.selects_of_any_ne_nil excludeAny).2 ⟨entry, contained entry member, accepted⟩
  · have excludeAny : excluding.any = [] := by
      by_cases given : excluding.any = []
      · exact given
      · exact direct.resolve_left (alternatives given)
    have accepted : meaning.Accepts matching.direct request := by
      by_cases matchAny : matching.any = []
      · exact (Meaning.selects_of_any_eq_nil matchAny).1 selected
      · have empty := oneForm.direct (.inl matchAny)
        exact Meaning.accepts_of_isEmpty (Filter.isEmpty_iff.2 empty) request
    rw [Meaning.selects_of_any_eq_nil excludeAny]
    exact accepted.of_checks passed compares closing

end

/-! ### Requests told apart by name and kind -/

structure NamedRequest where
  name : String
  kind : String

def NamedRequest.meaning : Meaning NamedRequest where
  name request := request.name
  role _ _ := False
  clusterRole _ _ := False
  subject _ _ := False
  namespaceName _ _ := False
  kind kind request := kind = request.kind
  labels := ⟨fun _ _ _ => False, fun _ _ => False⟩
  namespaceLabels := ⟨fun _ _ _ => False, fun _ _ => False⟩
  annotations _ _ := False

theorem NamedRequest.accepts_empty (request : NamedRequest) : meaning.Accepts .empty request :=
  Meaning.accepts_of_isEmpty (Filter.isEmpty_iff.2 rfl) request

theorem selects_of_analyze_eq_empty_named :
    let matching : Selector :=
      .ofFilter ((Filter.empty.withNames ["web-*", "db-1"]).withKinds ["Pod"])
    let excluding : Selector :=
      .ofFilter (((Filter.empty.withNames ["db-?", "?*"]).withKinds ["Pod", "Job"]).withLabels .empty)
    Coverage.analyze matching excluding = .empty ∧
      NamedRequest.meaning.Selects matching ⟨"web-7", "Pod"⟩ ∧
      NamedRequest.meaning.Selects excluding ⟨"web-7", "Pod"⟩ := by
  intro matching excluding
  have covered : Coverage.analyze matching excluding = .empty := by decide +kernel
  have selected : NamedRequest.meaning.Selects matching ⟨"web-7", "Pod"⟩ :=
    Meaning.selects_ofFilter_iff.2 { NamedRequest.accepts_empty ⟨"web-7", "Pod"⟩ with
      names := .inr ⟨"web-*", List.mem_cons_self, by decide +kernel⟩
      kinds := .inr ⟨"Pod", List.mem_cons_self, rfl⟩ }
  refine ⟨covered, selected, selects_of_analyze_eq_empty ?_ ?_ ?_ ?_ covered selected⟩
  · decide
  · exact fun given => absurd rfl given
  · exact ⟨Pattern.comparesTexts_of_forall (by decide), Coverage.comparesTexts_services⟩
  · exact fun _ _ => ⟨by decide, by decide, .inl rfl, .inl rfl, .inl rfl⟩

/-! Each of the last three conditions is needed. Alternatives that only the exclude block has are not
looked at, a `?` that takes a `*` takes too little, and behind names nothing is compared. -/

theorem NamedRequest.accepts_withKinds_iff {kind : String} {request : NamedRequest} :
    meaning.Accepts (Filter.empty.withKinds [kind]) request ↔ kind = request.kind := by
  constructor
  · intro accepted
    obtain ⟨listed, member, same⟩ := accepted.kinds.resolve_left (List.cons_ne_nil _ _)
    obtain rfl := List.mem_singleton.1 member
    exact same
  · intro same
    exact { accepts_empty request with kinds := .inr ⟨kind, List.mem_cons_self, same⟩ }

theorem analyze_misses_alternatives :
    Coverage.analyze (.ofFilter (Filter.empty.withKinds ["Job"]))
        (.anyOf [Filter.empty.withKinds ["Pod"]]) = .empty ∧
      NamedRequest.meaning.Selects (.ofFilter (Filter.empty.withKinds ["Job"])) ⟨"db", "Job"⟩ ∧
      ¬NamedRequest.meaning.Selects (.anyOf [Filter.empty.withKinds ["Pod"]]) ⟨"db", "Job"⟩ := by
  refine ⟨by decide, ?_, ?_⟩
  · rw [Meaning.selects_ofFilter_iff, NamedRequest.accepts_withKinds_iff]
  · rw [Meaning.selects_of_any_ne_nil (by decide)]
    simp [Selector.anyOf, NamedRequest.accepts_withKinds_iff]

theorem analyze_misses_wildcards :
    Coverage.analyze (.ofFilter (Filter.empty.withName "*"))
        (.ofFilter (Filter.empty.withName "?")) = .empty ∧
      NamedRequest.meaning.Selects (.ofFilter (Filter.empty.withName "*")) ⟨"db", "Job"⟩ ∧
      ¬NamedRequest.meaning.Selects (.ofFilter (Filter.empty.withName "?")) ⟨"db", "Job"⟩ := by
  have accepted := NamedRequest.accepts_empty ⟨"db", "Job"⟩
  refine ⟨by decide +kernel, ?_, ?_⟩
  · exact Meaning.selects_ofFilter_iff.2 { accepted with name := .inr rfl }
  · rw [Meaning.selects_ofFilter_iff]
    intro accepted
    have wrong : Pattern.matchesName "?" "db" = true := accepted.name.resolve_left (by decide)
    have right : Pattern.matchesName "?" "db" = false := by decide +kernel
    rw [right] at wrong
    cases wrong

theorem analyze_misses_kinds_behind_names :
    Coverage.analyze (.ofFilter (Filter.empty.withNames ["db"]))
        (.ofFilter ((Filter.empty.withNames ["db"]).withKinds ["Pod"])) = .empty ∧
      NamedRequest.meaning.Selects (.ofFilter (Filter.empty.withNames ["db"])) ⟨"db", "Job"⟩ ∧
      ¬NamedRequest.meaning.Selects (.ofFilter ((Filter.empty.withNames ["db"]).withKinds ["Pod"]))
        ⟨"db", "Job"⟩ := by
  have accepted := NamedRequest.accepts_empty ⟨"db", "Job"⟩
  refine ⟨by decide +kernel, ?_, ?_⟩
  · exact Meaning.selects_ofFilter_iff.2
      { accepted with names := .inr ⟨"db", List.mem_cons_self, by decide +kernel⟩ }
  · rw [Meaning.selects_ofFilter_iff]
    intro accepted
    obtain ⟨listed, member, same⟩ := accepted.kinds.resolve_left (List.cons_ne_nil _ _)
    obtain rfl := List.mem_singleton.1 member
    have wrong : "Pod" = "Job" := same
    exact absurd wrong (by decide)

end AdmissionPolicy
