import AdmissionPolicy.Proofs.Coverage.Meaning
import AdmissionPolicy.Proofs.Coverage.Table

/-!
Narrower and wider blocks. What is proved to be covered stays covered when the match block becomes
narrower and the exclude block wider.
-/

namespace AdmissionPolicy

universe u v

/-- A list within a wider one has only values of the wider one. It is empty only together with the
wider one, because an empty list accepts everything. -/
structure ListWithin {α : Type v} (values wider : List α) : Prop where
  contained : ∀ value ∈ values, value ∈ wider
  given : values = [] → wider = []

/-- A predicate within a wider one demands all that the wider one demands. -/
structure LabelSelector.Within (selector wider : LabelSelector) : Prop where
  labels : ∀ label ∈ wider.labels.entries, label ∈ selector.labels.entries
  requirements : ∀ requirement ∈ wider.requirements, requirement ∈ selector.requirements

structure Filter.Within (filter wider : Filter) : Prop where
  roles : ListWithin filter.requester.roles wider.requester.roles
  clusterRoles : ListWithin filter.requester.clusterRoles wider.requester.clusterRoles
  subjects : ListWithin filter.requester.subjects wider.requester.subjects
  name : filter.resources.name = wider.resources.name
  names : ListWithin filter.resources.names wider.resources.names
  namespaces : ListWithin filter.resources.namespaces wider.resources.namespaces
  kinds : ListWithin filter.resources.kinds wider.resources.kinds
  labels : Option.Rel LabelSelector.Within filter.resources.labels wider.resources.labels
  namespaceLabels : Option.Rel LabelSelector.Within filter.resources.namespaceLabels
    wider.resources.namespaceLabels
  annotations : filter.resources.annotations = wider.resources.annotations

/-- Alternatives are compared as they are. Of `all` it only counts whether it is used. -/
structure Selector.Within (selector wider : Selector) : Prop where
  any : ListWithin selector.any wider.any
  all : selector.all = [] ↔ wider.all = []
  direct : selector.direct.Within wider.direct

/-! ### Single dimensions -/

namespace ListWithin

variable {α : Type v} {values wider : List α}

theorem refl (values : List α) : ListWithin values values :=
  ⟨fun _ member => member, id⟩

theorem append (given : values ≠ []) (more : List α) : ListWithin values (values ++ more) where
  contained _ member := List.mem_append_left more member
  given none := absurd none given

theorem of_sublist (sublist : values.Sublist wider) (given : values = [] → wider = []) :
    ListWithin values wider where
  contained _ member := sublist.subset member
  given := given

theorem eq_nil_iff (within : ListWithin values wider) : values = [] ↔ wider = [] := by
  constructor
  · exact within.given
  · rintro rfl
    exact List.eq_nil_iff_forall_not_mem.2 fun value member =>
      List.not_mem_nil (within.contained value member)

theorem isEmpty_eq (within : ListWithin values wider) : values.isEmpty = wider.isEmpty := by
  rw [Bool.eq_iff_iff, List.isEmpty_iff, List.isEmpty_iff, within.eq_nil_iff]

end ListWithin

theorem LabelSelector.Within.trans {selector middle wider : LabelSelector}
    (first : selector.Within middle) (second : middle.Within wider) : selector.Within wider where
  labels label member := first.labels label (second.labels label member)
  requirements requirement member :=
    first.requirements requirement (second.requirements requirement member)

theorem isNone_eq_of_rel {α : Type v} {related : α → α → Prop} {given other : Option α}
    (rel : Option.Rel related given other) : given.isNone = other.isNone := by
  cases rel with
  | none => rfl
  | some => rfl

theorem Filter.Within.isEmpty_eq {filter wider : Filter} (within : filter.Within wider) :
    filter.isEmpty = wider.isEmpty := by
  simp only [Filter.isEmpty, Requester.isEmpty, ResourceCriteria.isEmpty, within.name,
    within.annotations, within.roles.isEmpty_eq, within.clusterRoles.isEmpty_eq,
    within.subjects.isEmpty_eq, within.names.isEmpty_eq, within.namespaces.isEmpty_eq,
    within.kinds.isEmpty_eq, isNone_eq_of_rel within.labels,
    isNone_eq_of_rel within.namespaceLabels]

theorem Filter.Within.ofFilter {filter wider : Filter} (within : filter.Within wider) :
    (Selector.ofFilter filter).Within (.ofFilter wider) :=
  ⟨.refl [], .rfl, within⟩

theorem Selector.Within.isEmpty_eq {selector wider : Selector} (within : selector.Within wider) :
    selector.any.isEmpty = wider.any.isEmpty ∧ selector.all.isEmpty = wider.all.isEmpty ∧
      selector.isEmpty = wider.isEmpty := by
  have any : selector.any.isEmpty = wider.any.isEmpty := within.any.isEmpty_eq
  have all : selector.all.isEmpty = wider.all.isEmpty := by
    rw [Bool.eq_iff_iff, List.isEmpty_iff, List.isEmpty_iff, within.all]
  refine ⟨any, all, ?_⟩
  rw [Selector.isEmpty, Selector.isEmpty, any, all, within.direct.isEmpty_eq]

/-! ### What narrower blocks select -/

section

variable {Request : Type u} {meaning : Meaning Request} {request : Request}

theorem AcceptsList.of_within {α : Type v} {accepts : α → Prop} {values wider : List α}
    (within : ListWithin values wider) (accepted : AcceptsList accepts values) :
    AcceptsList accepts wider := by
  rcases accepted with none | ⟨value, member, fits⟩
  · exact .inl (within.given none)
  · exact .inr ⟨value, within.contained value member, fits⟩

theorem LabelMeaning.Accepts.of_within {meaning : LabelMeaning Request}
    {labels wider : Option LabelSelector} (within : Option.Rel LabelSelector.Within labels wider)
    (accepted : meaning.Accepts request labels) : meaning.Accepts request wider := by
  cases within with
  | none => trivial
  | some within =>
      obtain ⟨labels, requirements⟩ := accepted
      refine ⟨fun label member => ?_, fun requirement member => ?_⟩
      · exact labels label (within.labels label member)
      · exact requirements requirement (within.requirements requirement member)

theorem Meaning.Accepts.of_within {filter wider : Filter} (within : filter.Within wider)
    (accepted : meaning.Accepts filter request) : meaning.Accepts wider request where
  roles := accepted.roles.of_within within.roles
  clusterRoles := accepted.clusterRoles.of_within within.clusterRoles
  subjects := accepted.subjects.of_within within.subjects
  name := within.name ▸ accepted.name
  names := accepted.names.of_within within.names
  namespaces := accepted.namespaces.of_within within.namespaces
  kinds := accepted.kinds.of_within within.kinds
  labels := accepted.labels.of_within within.labels
  namespaceLabels := accepted.namespaceLabels.of_within within.namespaceLabels
  annotations := within.annotations ▸ accepted.annotations

/-- Whatever the single values mean, a narrower block selects no more than a wider one. -/
theorem Meaning.selects_of_within {selector wider : Selector} (within : selector.Within wider)
    (selected : meaning.Selects selector request) : meaning.Selects wider request := by
  by_cases any : selector.any = []
  · rw [selects_of_any_eq_nil any] at selected
    rw [selects_of_any_eq_nil (within.any.given any)]
    exact selected.of_within within.direct
  · rw [selects_of_any_ne_nil any] at selected
    rw [selects_of_any_ne_nil fun none => any (within.any.eq_nil_iff.2 none)]
    obtain ⟨entry, member, accepted⟩ := selected
    exact ⟨entry, within.any.contained entry member, accepted⟩

end

namespace Coverage

/-! ### What stays open -/

theorem ListOpen.of_within {α : Type} {excluded wider matched narrower : List α}
    (excludeWithin : ListWithin excluded wider) (matchWithin : ListWithin narrower matched)
    (opened : ListOpen wider narrower) : ListOpen excluded matched := by
  obtain ⟨given, missing⟩ := opened
  refine ⟨fun none => given (excludeWithin.given none), ?_⟩
  rcases missing with none | ⟨value, member, absent⟩
  · exact .inl (matchWithin.given none)
  · refine .inr ⟨value, matchWithin.contained value member, fun listed => ?_⟩
    exact absent (excludeWithin.contained value listed)

theorem NamesOpen.of_within {excluded wider matched narrower : List String}
    (excludeWithin : ListWithin excluded wider) (matchWithin : ListWithin narrower matched)
    (opened : NamesOpen wider narrower) : NamesOpen excluded matched := by
  obtain ⟨given, missing⟩ := opened
  refine ⟨fun none => given (excludeWithin.given none), ?_⟩
  rcases missing with none | ⟨name, member, unmatched⟩
  · exact .inl (matchWithin.given none)
  · refine .inr ⟨name, matchWithin.contained name member, fun pattern listed => ?_⟩
    exact unmatched pattern (excludeWithin.contained pattern listed)

theorem not_labelsOpen_iff_within {excluded matched : Option LabelSelector} :
    ¬LabelsOpen excluded matched ↔ Option.Rel LabelSelector.Within matched excluded := by
  constructor
  · intro closed
    cases matched with
    | none =>
        cases excluded with
        | none => exact .none
        | some excluded => exact absurd trivial closed
    | some matched =>
        cases excluded with
        | none => exact absurd trivial closed
        | some excluded =>
            simp only [LabelsOpen, not_or, not_exists, not_and, Decidable.not_not] at closed
            exact .some ⟨closed.1, closed.2⟩
  · intro within opened
    cases within with
    | none => exact opened
    | some within =>
        rcases opened with ⟨label, member, absent⟩ | ⟨requirement, member, absent⟩
        · exact absent (within.labels label member)
        · exact absent (within.requirements requirement member)

theorem LabelsOpen.of_within {excluded wider matched narrower : Option LabelSelector}
    (excludeWithin : Option.Rel LabelSelector.Within excluded wider)
    (matchWithin : Option.Rel LabelSelector.Within narrower matched)
    (opened : LabelsOpen wider narrower) : LabelsOpen excluded matched := by
  apply Decidable.by_contra
  rw [not_labelsOpen_iff_within]
  intro covered
  refine not_labelsOpen_iff_within.2 ?_ opened
  cases matchWithin with
  | none =>
      cases covered
      cases excludeWithin
      exact .none
  | some matchWithin =>
      cases covered with
      | some covered =>
          cases excludeWithin with
          | some excludeWithin => exact .some ((matchWithin.trans covered).trans excludeWithin)

theorem Open.of_within {excluded wider matched narrower : Filter} {dimension : Dimension}
    (excludeWithin : excluded.Within wider) (matchWithin : narrower.Within matched)
    (opened : Open narrower wider dimension) : Open matched excluded dimension := by
  cases dimension with
  | anyEntries => exact opened
  | exclude => exact opened
  | roles => exact ListOpen.of_within excludeWithin.roles matchWithin.roles opened
  | clusterRoles =>
      exact ListOpen.of_within excludeWithin.clusterRoles matchWithin.clusterRoles opened
  | subjects => exact ListOpen.of_within excludeWithin.subjects matchWithin.subjects opened
  | name =>
      simp only [Open, excludeWithin.name, ← matchWithin.name]
      exact opened
  | names => exact NamesOpen.of_within excludeWithin.names matchWithin.names opened
  | namespaces => exact ListOpen.of_within excludeWithin.namespaces matchWithin.namespaces opened
  | kinds => exact ListOpen.of_within excludeWithin.kinds matchWithin.kinds opened
  | labels => exact LabelsOpen.of_within excludeWithin.labels matchWithin.labels opened
  | namespaceLabels =>
      exact LabelsOpen.of_within excludeWithin.namespaceLabels matchWithin.namespaceLabels opened
  | annotations =>
      simp only [Open, excludeWithin.annotations, ← matchWithin.annotations]
      exact opened

theorem compared_of_within {excluded wider : Filter} (within : excluded.Within wider) :
    compared excluded = compared wider := by
  simp only [compared, within.names.eq_nil_iff]

/-- A match block that is proved to be covered stays covered when it becomes narrower and the
exclude block becomes wider. -/
theorem analyze_eq_empty_of_within {matching narrower excluding wider : Selector}
    (matchWithin : narrower.Within matching) (excludeWithin : excluding.Within wider)
    (covered : analyze matching excluding = .empty) : analyze narrower wider = .empty := by
  rw [analyze_eq_empty_iff] at covered ⊢
  obtain ⟨matchAll, excludeAll, way⟩ := covered
  refine ⟨matchWithin.all.2 matchAll, excludeWithin.all.1 excludeAll, ?_⟩
  rcases way with ⟨matchAny, excludeAny, listed⟩ | ⟨direct, given, passed⟩
  · refine .inl ⟨fun none => matchAny (matchWithin.any.given none),
      fun none => excludeAny (excludeWithin.any.eq_nil_iff.2 none), fun entry member => ?_⟩
    have before : entry ∈ matching.any := matchWithin.any.contained entry member
    exact excludeWithin.any.contained entry (listed entry before)
  · refine .inr ⟨direct.imp matchWithin.any.eq_nil_iff.2 excludeWithin.any.given, ?_, ?_⟩
    · rw [ne_eq, ← Selector.isEmpty_iff] at given ⊢
      rwa [← excludeWithin.isEmpty_eq.2.2]
    · rw [checks_passed_iff_not_open] at passed ⊢
      rw [← compared_of_within excludeWithin.direct]
      intro dimension looked opened
      exact passed dimension looked (opened.of_within excludeWithin.direct matchWithin.direct)

theorem analyze_eq_empty_of_within_labels :
    let app := LabelSelector.empty.withLabel "app" "shop"
    let narrowed := (app.withLabel "env" "prod").withRequirement ⟨"tier", .present, []⟩
    analyze (.ofFilter ((Filter.empty.withNamespaces ["a", "b"]).withLabels app))
        (.ofFilter ((Filter.empty.withNamespaces ["b", "a"]).withLabels app)) = .empty ∧
      analyze (.ofFilter ((Filter.empty.withNamespaces ["b"]).withLabels narrowed))
        (.ofFilter ((Filter.empty.withNamespaces ["b", "a", "c"]).withLabels .empty)) = .empty := by
  intro app narrowed
  have covered : analyze (.ofFilter ((Filter.empty.withNamespaces ["a", "b"]).withLabels app))
      (.ofFilter ((Filter.empty.withNamespaces ["b", "a"]).withLabels app)) = .empty := by
    decide +kernel
  have matchWithin : ((Filter.empty.withNamespaces ["b"]).withLabels narrowed).Within
      ((Filter.empty.withNamespaces ["a", "b"]).withLabels app) := {
    roles := .refl _
    clusterRoles := .refl _
    subjects := .refl _
    name := rfl
    names := .refl _
    namespaces := .of_sublist (by decide) (by decide)
    kinds := .refl _
    labels := .some ⟨by decide +kernel, fun _ none => absurd none List.not_mem_nil⟩
    namespaceLabels := .none
    annotations := rfl
  }
  have excludeWithin : ((Filter.empty.withNamespaces ["b", "a"]).withLabels app).Within
      ((Filter.empty.withNamespaces ["b", "a", "c"]).withLabels .empty) := {
    roles := .refl _
    clusterRoles := .refl _
    subjects := .refl _
    name := rfl
    names := .refl _
    namespaces := .append (by decide) ["c"]
    kinds := .refl _
    labels := .some ⟨fun _ none => absurd none List.not_mem_nil, fun _ member => member⟩
    namespaceLabels := .none
    annotations := rfl
  }
  exact ⟨covered, analyze_eq_empty_of_within matchWithin.ofFilter excludeWithin.ofFilter covered⟩

end Coverage

end AdmissionPolicy
