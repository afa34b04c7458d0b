import AdmissionPolicy.Proofs.Rule.Kinds
import AdmissionPolicy.Proofs.Rule.Places

/-!
What the scope of a policy adds to the findings about a rule. In a namespace the check forbids
namespaces and kinds from outside of namespaces, and finds everything else as it does elsewhere; a
larger set of such kinds only makes it forbid more of the kinds that the rule names.
-/

namespace AdmissionPolicy

namespace Finding

/-- Whether a finding forbids the namespaces that a filter lists. -/
def isOnNamespaces : Finding → Bool
  | forbidden place _ =>
      match place.steps.reverse with
      | .field "namespaces" :: .field "resources" :: _ => true
      | _ => false
  | _ => false

def isOnScope (finding : Finding) : Bool :=
  finding.isOnNamespaces || finding.isOnKind

end Finding

/-! ### Kinds that are forbidden -/

inductive Filter.ForbidsKind (filter : Filter) (place : Location) (kind : String) : Finding → Prop
  | listed {position : Nat} : filter.resources.kinds[position]? = some kind →
      filter.ForbidsKind place kind
        (.forbidden (((place.child "resources").child "kinds").index position)
          s!"cluster-scoped kind {kind} is not allowed in a namespaced policy")

inductive Selector.ForbidsKind (selector : Selector) (place : Location) (kind : String) :
    Finding → Prop
  | filter {filter : Filter} {inner : Location} {finding : Finding} :
      selector.FilterAt place filter inner → filter.ForbidsKind inner kind finding →
      selector.ForbidsKind place kind finding

/-- The findings that forbid a kind in the blocks of a rule, one for each place that names it. -/
inductive Rule.ForbidsKind (rule : Rule) (place : Location) (kind : String) : Finding → Prop
  | matching {finding : Finding} :
      rule.matching.ForbidsKind (place.child "match") kind finding →
      rule.ForbidsKind place kind finding
  | excluding {finding : Finding} :
      rule.excluding.ForbidsKind (place.child "exclude") kind finding →
      rule.ForbidsKind place kind finding

section

variable {place : Location} {kinds wider : TextSet} {found : Finding}

theorem Filter.violation_iff {filter : Filter} :
    filter.Violation place ⟨true, kinds⟩ found ↔
      filter.Violation place ⟨true, .empty⟩ found ∨
        ∃ kind ∈ kinds.keys, filter.ForbidsKind place kind found := by
  constructor
  · rintro (broken | ⟨listed, broken⟩)
    · rcases broken with ⟨name, names⟩ | ⟨namespaced, given⟩ | ⟨namespaced, listed, outside⟩ |
        labels | labels
      · exact .inl (.resources (.bothNames name names))
      · exact .inl (.resources (.namespaces rfl given))
      · exact .inr ⟨_, outside, .listed listed⟩
      · exact .inl (.resources (.labels labels))
      · exact .inl (.resources (.namespaceLabels labels))
    · exact .inl (.subject listed broken)
  · rintro ((broken | ⟨listed, broken⟩) | ⟨kind, outside, forbidden⟩)
    · rcases broken with ⟨name, names⟩ | ⟨namespaced, given⟩ | ⟨namespaced, listed, inEmpty⟩ |
        labels | labels
      · exact .resources (.bothNames name names)
      · exact .resources (.namespaces rfl given)
      · cases inEmpty
      · exact .resources (.labels labels)
      · exact .resources (.namespaceLabels labels)
    · exact .subject listed broken
    · obtain ⟨listed⟩ := forbidden
      exact .resources (.kind rfl listed outside)

theorem Selector.violation_iff {selector : Selector} :
    selector.Violation place ⟨true, kinds⟩ found ↔
      selector.Violation place ⟨true, .empty⟩ found ∨
        ∃ kind ∈ kinds.keys, selector.ForbidsKind place kind found := by
  constructor
  · rintro (⟨any, all⟩ | ⟨lists, given⟩ | ⟨placed, broken⟩)
    · exact .inl (.bothLists any all)
    · exact .inl (.besideLists lists given)
    · rcases Filter.violation_iff.1 broken with same | ⟨kind, outside, forbidden⟩
      · exact .inl (.filter placed same)
      · exact .inr ⟨kind, outside, .filter placed forbidden⟩
  · rintro ((⟨any, all⟩ | ⟨lists, given⟩ | ⟨placed, broken⟩) | ⟨kind, outside, placed, forbidden⟩)
    · exact .bothLists any all
    · exact .besideLists lists given
    · exact .filter placed (Filter.violation_iff.2 (.inl broken))
    · exact .filter placed (Filter.violation_iff.2 (.inr ⟨kind, outside, forbidden⟩))

/-- In a namespace, a set of kinds adds one finding for each place that names one of them. -/
theorem Rule.mem_check_iff {rule : Rule} :
    found ∈ rule.check Selector.check place ⟨true, kinds⟩ ↔
      found ∈ rule.check Selector.check place ⟨true, .empty⟩ ∨
        ∃ kind ∈ kinds.keys, rule.ForbidsKind place kind found := by
  have matching := @Selector.violation_iff (place.child "match") kinds found rule.matching
  have excluding := @Selector.violation_iff (place.child "exclude") kinds found rule.excluding
  simp only [check, List.mem_append, Selector.mem_check_iff, matching, excluding]
  constructor
  · rintro ((itself | matched | ⟨kind, outside, forbidden⟩) | excluded | ⟨kind, outside, forbidden⟩)
    · exact .inl (.inl (.inl itself))
    · exact .inl (.inl (.inr matched))
    · exact .inr ⟨kind, outside, .matching forbidden⟩
    · exact .inl (.inr excluded)
    · exact .inr ⟨kind, outside, .excluding forbidden⟩
  · rintro (((itself | matched) | excluded) | ⟨kind, outside, forbidden | forbidden⟩)
    · exact .inl (.inl itself)
    · exact .inl (.inr (.inl matched))
    · exact .inr (.inl excluded)
    · exact .inl (.inr (.inr ⟨kind, outside, forbidden⟩))
    · exact .inr (.inr ⟨kind, outside, forbidden⟩)

theorem Rule.ForbidsKind.eq_forbidden {rule : Rule} {kind : String}
    (forbidden : rule.ForbidsKind place kind found) :
    found.isOnKind = true ∧ ∃ inner, found = .forbidden inner
      s!"cluster-scoped kind {kind} is not allowed in a namespaced policy" := by
  rcases forbidden with ⟨-, ⟨-⟩⟩ | ⟨-, ⟨-⟩⟩
  · exact ⟨by simp [Finding.isOnKind, Location.child, Location.index, Location.extend], _, rfl⟩
  · exact ⟨by simp [Finding.isOnKind, Location.child, Location.index, Location.extend], _, rfl⟩

theorem Rule.ForbidsKind.kind_eq {rule : Rule} {kind other : String}
    (first : rule.ForbidsKind place kind found) (second : rule.ForbidsKind place other found) :
    kind = other := by
  -- The text of the finding names the kind.
  obtain ⟨-, inner, rfl⟩ := first.eq_forbidden
  obtain ⟨-, otherInner, same⟩ := second.eq_forbidden
  have texts : inner = otherInner ∧ toString kind = toString other := by simpa using same
  exact texts.2

theorem Rule.ForbidsKind.mem_check_iff {rule : Rule} {kind : String}
    (forbidden : rule.ForbidsKind place kind found) :
    found ∈ rule.check Selector.check place ⟨true, kinds⟩ ↔ kind ∈ kinds.keys := by
  have absent : found ∉ rule.check Selector.check place ⟨true, .empty⟩ := by
    have noKinds : (rule.check Selector.check place ⟨true, .empty⟩).countP Finding.isOnKind = 0 := by
      rw [rule.countP_check, Scope.countOutside, if_pos rfl, List.countP_eq_zero]
      simp [Dict.contains, Dict.empty]
    exact fun reported => List.countP_eq_zero.1 noKinds found reported forbidden.eq_forbidden.1
  rw [Rule.mem_check_iff]
  constructor
  · rintro (reported | ⟨other, outside, otherForbidden⟩)
    · exact absurd reported absent
    · rwa [forbidden.kind_eq otherForbidden]
  · intro outside
    exact .inr ⟨kind, outside, forbidden⟩

theorem Rule.mem_additional_iff {rule : Rule} :
    found ∈ rule.check Selector.check place ⟨true, wider⟩ ∧
        found ∉ rule.check Selector.check place ⟨true, kinds⟩ ↔
      ∃ kind ∈ wider.keys, kind ∉ kinds.keys ∧ rule.ForbidsKind place kind found := by
  constructor
  · rintro ⟨reported, notBefore⟩
    rcases Rule.mem_check_iff.1 reported with always | ⟨kind, outside, forbidden⟩
    · exact absurd (Rule.mem_check_iff.2 (.inl always)) notBefore
    · exact ⟨kind, outside, fun before => notBefore (forbidden.mem_check_iff.2 before), forbidden⟩
  · rintro ⟨kind, outside, notBefore, forbidden⟩
    rw [forbidden.mem_check_iff, forbidden.mem_check_iff]
    exact ⟨outside, notBefore⟩

end

/-! ### Findings outside of namespaces -/

theorem filter_findingsOfItems {α : Type} {keeps : Finding → Bool} {items : List α}
    {place : Location} {check other : α → Location → List Finding}
    (each : ∀ item position,
      (check item (place.index position)).filter keeps = other item (place.index position)) :
    (findingsOfItems items place check).filter keeps = findingsOfItems items place other := by
  simp only [findingsOfItems, List.filter_flatMap, each]

theorem filter_offScope_eq_self {findings : List Finding}
    (offScope : ∀ found ∈ findings, found.isOnScope = false) :
    findings.filter (fun found => !found.isOnScope) = findings := by
  rw [List.filter_eq_self]
  intro found member
  simp [offScope found member]

theorem ResourceCriteria.isOnScope_of_mem_checkScope {criteria : ResourceCriteria}
    {place : Location} {scope : Scope} :
    ∀ found ∈ criteria.checkScope (place.child "resources") scope, found.isOnScope = true := by
  intro found reported
  obtain ⟨-, ⟨-, rfl⟩ | ⟨_, _, -, -, rfl⟩⟩ := mem_checkScope_iff.1 reported
  · simp [Finding.isOnScope, Finding.isOnNamespaces, Location.child, Location.extend]
  · simp [Finding.isOnScope, Finding.isOnKind, Location.child, Location.index, Location.extend]

theorem isOnScope_of_mem_checkLabels {labels : Option LabelSelector} {place : Location} :
    ∀ found ∈ checkLabels labels place, found.isOnScope = false := by
  intro found reported
  -- A label requirement forbids values, so the name of the field has to be looked at.
  obtain ⟨-, -, broken⟩ := mem_checkLabels_iff.1 reported
  cases broken with
  | noKey => rfl
  | noValues => rfl
  | values =>
      simp [Finding.isOnScope, Finding.isOnNamespaces, Finding.isOnKind, Location.child,
        Location.extend]

section

variable (kinds wider : TextSet)

theorem ResourceCriteria.filter_checkScope (criteria : ResourceCriteria) (place : Location) :
    (criteria.checkScope (place.child "resources") ⟨true, kinds⟩).filter
        (fun found => !found.isOnScope) =
      criteria.checkScope (place.child "resources") ⟨false, wider⟩ := by
  have none : criteria.checkScope (place.child "resources") ⟨false, wider⟩ = [] := rfl
  rw [none, List.filter_eq_nil_iff]
  intro found reported
  simp [isOnScope_of_mem_checkScope found reported]

theorem Filter.filter_check (filter : Filter) (place : Location) :
    (filter.check place ⟨true, kinds⟩).filter (fun found => !found.isOnScope) =
      filter.check place ⟨false, wider⟩ := by
  have naming (value detail : String) (condition : Bool) (place : Location) :
      (findingIf condition (.invalid place value detail)).filter (fun found => !found.isOnScope) =
        findingIf condition (.invalid place value detail) :=
    filter_offScope_eq_self (forall_findingIf rfl)
  have labels (labels : Option LabelSelector) (place : Location) :
      (checkLabels labels place).filter (fun found => !found.isOnScope) =
        checkLabels labels place :=
    filter_offScope_eq_self isOnScope_of_mem_checkLabels
  have subjects :
      (findingsOfItems filter.requester.subjects (place.child "subjects") Subject.check).filter
          (fun found => !found.isOnScope) =
        findingsOfItems filter.requester.subjects (place.child "subjects") Subject.check := by
    apply filter_offScope_eq_self
    apply forall_findingsOfItems
    intro subject position
    exact subject.forall_check (fun _ _ _ => rfl) _
  simp only [check, ResourceCriteria.check, List.filter_append, naming, labels, subjects,
    filter.resources.filter_checkScope kinds wider]

theorem Selector.filter_check (selector : Selector) (place : Location) :
    (selector.check place ⟨true, kinds⟩).filter (fun found => !found.isOnScope) =
      selector.check place ⟨false, wider⟩ := by
  have form : (selector.checkForm place).filter (fun found => !found.isOnScope) =
      selector.checkForm place :=
    filter_offScope_eq_self (selector.forall_checkForm (fun _ _ _ => rfl) place)
  have entries (filters : List Filter) (place : Location) :
      (findingsOfItems filters place fun filter place => filter.check place ⟨true, kinds⟩).filter
          (fun found => !found.isOnScope) =
        findingsOfItems filters place fun filter place => filter.check place ⟨false, wider⟩ :=
    filter_findingsOfItems fun filter position => filter.filter_check kinds wider _
  simp only [check, List.filter_append, form, entries, selector.direct.filter_check kinds wider]

theorem Rule.filter_check (rule : Rule) (place : Location) :
    (rule.check Selector.check place ⟨true, kinds⟩).filter (fun found => !found.isOnScope) =
      rule.check Selector.check place ⟨false, wider⟩ := by
  have operation : (rule.checkOperation place).filter (fun found => !found.isOnScope) =
      rule.checkOperation place :=
    filter_offScope_eq_self (rule.forall_checkOperation place rfl rfl)
  have coverage : (rule.checkCoverage place).filter (fun found => !found.isOnScope) =
      rule.checkCoverage place := by
    rw [checkCoverage_eq]
    split
    · rfl
    · rfl
  simp only [check, List.filter_append, operation, coverage, Selector.filter_check kinds wider]

end

/-! ### More kinds outside of namespaces -/

theorem findingIf_sublist {condition wider : Bool} (implied : condition = true → wider = true)
    (finding : Finding) : (findingIf condition finding).Sublist (findingIf wider finding) := by
  cases condition with
  | false => exact List.nil_sublist _
  | true => rw [implied rfl]

theorem findingsOfItems_sublist {α : Type} {items : List α} {place : Location}
    {check wider : α → Location → List Finding}
    (each : ∀ item position,
      (check item (place.index position)).Sublist (wider item (place.index position))) :
    (findingsOfItems items place check).Sublist (findingsOfItems items place wider) := by
  unfold findingsOfItems
  induction items.zipIdx with
  | nil => exact List.Sublist.slnil
  | cons entry entries ih => exact (each entry.1 entry.2).append ih

section

variable {kinds wider : TextSet} (within : ∀ kind ∈ kinds.keys, kind ∈ wider.keys)

include within in
theorem ResourceCriteria.checkScope_sublist (criteria : ResourceCriteria) (place : Location) :
    (criteria.checkScope place ⟨true, kinds⟩).Sublist
      (criteria.checkScope place ⟨true, wider⟩) := by
  refine List.Sublist.append_left (findingsOfItems_sublist fun kind position => ?_) _
  apply findingIf_sublist
  simpa only [Dict.contains_iff_mem_keys] using within kind

include within in
theorem Filter.check_sublist (filter : Filter) (place : Location) :
    (filter.check place ⟨true, kinds⟩).Sublist (filter.check place ⟨true, wider⟩) := by
  have onScope := filter.resources.checkScope_sublist within (place.child "resources")
  exact (((onScope.append_left _).append_right _).append_right _).append_right _

include within in
theorem Selector.check_sublist (selector : Selector) (place : Location) :
    (selector.check place ⟨true, kinds⟩).Sublist (selector.check place ⟨true, wider⟩) := by
  have direct := selector.direct.check_sublist within place
  have entries (filters : List Filter) (place : Location) :
      (findingsOfItems filters place fun filter place => filter.check place ⟨true, kinds⟩).Sublist
        (findingsOfItems filters place fun filter place => filter.check place ⟨true, wider⟩) :=
    findingsOfItems_sublist fun filter position => filter.check_sublist within _
  exact ((direct.append_left _).append (entries selector.any _)).append (entries selector.all _)

include within in
theorem Rule.check_sublist (rule : Rule) (place : Location) :
    (rule.check Selector.check place ⟨true, kinds⟩).Sublist
      (rule.check Selector.check place ⟨true, wider⟩) := by
  have matching := rule.matching.check_sublist within (place.child "match")
  have excluding := rule.excluding.check_sublist within (place.child "exclude")
  exact (matching.append_left _).append excluding

end

/-- Outside of namespaces the kinds do not matter, and the findings are those of a namespace without
the ones on its scope, in the same order. In a namespace more kinds from outside only add findings,
one for each place that names one of the kinds that were added. -/
theorem Rule.check_of_scopes (rule : Rule) (place : Location) (kinds wider : TextSet) :
    let elsewhere := fun kinds => rule.check Selector.check place ⟨false, kinds⟩
    let inNamespace := fun kinds => rule.check Selector.check place ⟨true, kinds⟩
    elsewhere kinds = elsewhere wider ∧
      elsewhere kinds = (inNamespace kinds).filter (fun found => !found.isOnScope) ∧
      ((∀ kind ∈ kinds.keys, kind ∈ wider.keys) →
        (inNamespace kinds).Sublist (inNamespace wider) ∧
          ∀ found, found ∈ (inNamespace wider).diff (inNamespace kinds) ↔
            ∃ kind ∈ wider.keys, kind ∉ kinds.keys ∧ rule.ForbidsKind place kind found) := by
  intro elsewhere inNamespace
  refine ⟨?_, (rule.filter_check kinds kinds place).symm, ?_⟩
  · exact (rule.filter_check kinds kinds place).symm.trans (rule.filter_check kinds wider place)
  · intro within
    refine ⟨rule.check_sublist within place, fun found => ?_⟩
    rw [(rule.check_once place ⟨true, wider⟩).nodup.mem_sdiff_iff]
    exact Rule.mem_additional_iff

theorem Rule.check_of_scopes_node :
    let labels := LabelSelector.empty.withRequirement ⟨"debug", .present, ["true"]⟩
    let nodes := ((Filter.empty.withKinds ["Pod", "Node"]).withNamespaces ["prod"]).withLabels labels
    let rule := { Rule.ofName "nodes" with matching := .ofFilter nodes }
    let resources := (Location.ofField "match").child "resources"
    let values := (((resources.child "selector").child "matchExpressions").index 0).child "values"
    let onNode := Finding.forbidden ((resources.child "kinds").index 1)
      "cluster-scoped kind Node is not allowed in a namespaced policy"
    (∀ kind ∈ (TextSet.ofList []).keys, kind ∈ (TextSet.ofList ["Node"]).keys) ∧
      rule.check Selector.check .root ⟨false, .ofList []⟩ =
        [ .missingOperation .root "nodes",
          .forbidden values "values must be empty for operator Exists" ] ∧
      onNode ∈ (rule.check Selector.check .root ⟨true, .ofList ["Node"]⟩).diff
        (rule.check Selector.check .root ⟨true, .ofList []⟩) := by
  intro labels nodes rule resources values onNode
  have within : ∀ kind ∈ (TextSet.ofList []).keys, kind ∈ (TextSet.ofList ["Node"]).keys :=
    fun _ none => absurd none List.not_mem_nil
  obtain ⟨-, elsewhere, more⟩ := rule.check_of_scopes .root (.ofList []) (.ofList ["Node"])
  have forbidden : rule.ForbidsKind .root "Node" onNode := .matching (.filter .direct (.listed rfl))
  refine ⟨within, elsewhere.trans ?_, ?_⟩
  · decide
  · exact ((more within).2 onNode).2 ⟨"Node", by decide, by decide, forbidden⟩

end AdmissionPolicy
