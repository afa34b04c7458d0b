import AdmissionPolicy.Proofs.Location.Text
import AdmissionPolicy.Proofs.Policy.NameLength

/-!
The places in a report as they are shown. Every check goes down named fields and positions only, so
what is shown of two places in a report tells them apart.
-/

namespace AdmissionPolicy

def Warning.place : Warning → Location
  | analysisSkipped place _ => place

def Report.places (report : Report) : List Location :=
  report.findings.map Finding.place ++ report.warnings.map Warning.place

/-! ### Violations stand at plain places -/

section

variable {place : Location} {scope : Scope} {finding : Finding}

theorem LabelRequirement.Violation.plain {requirement : LabelRequirement}
    (violation : requirement.Violation place finding) (plain : place.Plain) :
    finding.place.Plain := by
  cases violation with
  | noKey => exact plain.child (by decide)
  | noValues => exact plain.child (by decide)
  | values => exact plain.child (by decide)

theorem LabelsViolation.plain {labels : Option LabelSelector}
    (violation : LabelsViolation labels place finding) (plain : place.Plain) :
    finding.place.Plain := by
  obtain ⟨_, _, broken⟩ := violation
  exact broken.plain ((plain.child (by decide)).index _)

theorem Subject.Violation.plain {subject : Subject}
    (violation : subject.Violation place finding) (plain : place.Plain) :
    finding.place.Plain := by
  cases violation with
  | noKind => exact plain.child (by decide)
  | noName => exact plain.child (by decide)

theorem ResourceCriteria.Violation.plain {criteria : ResourceCriteria}
    (violation : criteria.Violation place scope finding) (plain : place.Plain) :
    finding.place.Plain := by
  cases violation with
  | bothNames => exact plain
  | namespaces => exact plain.child (by decide)
  | kind => exact (plain.child (by decide)).index _
  | labels broken => exact broken.plain (plain.child (by decide))
  | namespaceLabels broken => exact broken.plain (plain.child (by decide))

theorem Filter.Violation.plain {filter : Filter}
    (violation : filter.Violation place scope finding) (plain : place.Plain) :
    finding.place.Plain := by
  cases violation with
  | resources broken => exact broken.plain (plain.child (by decide))
  | subject _ broken => exact broken.plain ((plain.child (by decide)).index _)

theorem Selector.FilterAt.plain {selector : Selector} {filter : Filter} {inner : Location}
    (placed : selector.FilterAt place filter inner) (plain : place.Plain) : inner.Plain := by
  cases placed with
  | direct => exact plain
  | any => exact (plain.child (by decide)).index _
  | all => exact (plain.child (by decide)).index _

theorem Selector.Violation.plain {selector : Selector}
    (violation : selector.Violation place scope finding) (plain : place.Plain) :
    finding.place.Plain := by
  cases violation with
  | bothLists => exact plain
  | besideLists => exact plain
  | filter placed broken => exact broken.plain (placed.plain plain)

theorem Rule.check_plain (rule : Rule) (scope : Scope) (plain : place.Plain) :
    ∀ found ∈ rule.check Selector.check place scope, found.place.Plain := by
  have ofBlock (selector : Selector) {name : String} (plainName : Location.PlainName name) :
      ∀ found ∈ selector.check (place.child name) scope, found.place.Plain := by
    intro found reported
    exact (Selector.mem_check_iff.1 reported).plain (plain.child plainName)
  simp only [check, List.forall_mem_append]
  refine ⟨⟨⟨rule.forall_checkOperation place plain plain, ?_⟩, ?_⟩, ?_⟩
  · intro found reported
    rw [(rule.checkCoverage_once place).inScope found reported]
    exact plain
  · exact ofBlock rule.matching (by decide)
  · exact ofBlock rule.excluding (by decide)

end

namespace Policy

variable {settings : Settings} {policy : Policy}

theorem rulesPlace_plain : rulesPlace.Plain :=
  (Location.plain_root.child (by decide)).child (by decide)

theorem rulePlace_plain (position : Nat) : (rulePlace position).Plain :=
  rulesPlace_plain.index position

theorem block_plain (position : Nat) (rule : Rule) :
    ∀ found ∈ policy.block Selector.check settings position rule, found.place.Plain := by
  rw [block_eq, List.forall_mem_append]
  refine ⟨?_, rule.check_plain _ (rulePlace_plain position)⟩
  intro found reported
  rw [nameFindings_place found reported]
  exact (rulePlace_plain position).child (by decide)

theorem ruleWarnings_plain (position : Nat) (rule : Rule) :
    ∀ warning ∈ ruleWarnings settings position rule, warning.place.Plain := by
  unfold ruleWarnings
  split
  · exact List.forall_mem_singleton.2 (rulePlace_plain position)
  · exact List.forall_mem_nil _

theorem check_places_plain (settings : Settings) (policy : Policy) :
    ∀ place ∈ (policy.check settings).places, place.Plain := by
  rw [Report.places, List.forall_mem_append, List.forall_mem_map, List.forall_mem_map]
  by_cases none : policy.rules = []
  · rw [check_of_no_rules none]
    exact ⟨List.forall_mem_singleton.2 rulesPlace_plain, List.forall_mem_nil _⟩
  · rw [check, checkWith_report none]
    constructor
    · intro found reported
      obtain ⟨position, bound, inBlock⟩ := mem_blocks_iff.1 reported
      exact block_plain position _ found inBlock
    · intro warning reported
      obtain ⟨position, bound, inBlock⟩ := mem_blocks_iff.1 reported
      exact ruleWarnings_plain position _ warning inBlock

/-- Plain places are told apart by what is shown of them. All places in the report on a policy are
plain, so what is shown at one location is about one field. -/
theorem check_places_told_apart :
    (∀ place other : Location, place.Plain → other.Plain → place.text = other.text →
        place = other) ∧
      ∀ (settings : Settings) (policy : Policy),
        (∀ place ∈ (policy.check settings).places, place.Plain) ∧
          ∀ place ∈ (policy.check settings).places, ∀ other ∈ (policy.check settings).places,
            place.text = other.text → place = other := by
  refine ⟨fun _ _ plain otherPlain => Location.text_injective plain otherPlain, ?_⟩
  intro settings policy
  have plain := check_places_plain settings policy
  refine ⟨plain, ?_⟩
  intro place listed other otherListed
  exact Location.text_injective (plain place listed) (plain other otherListed)

theorem check_places_told_apart_name :
    let nested := (rulePlace 12).child "name"
    let listed : Location := ⟨[.field "spec", .field "rules", .index 12, .field "name"]⟩
    let settings := Settings.standard.withMaxNameLength 0
    let policy := ((default : Policy).addRule (.ofName "a")).addRule (.ofName "a")
    let place := (rulePlace 1).child "name"
    let long := Finding.invalid place "a" "must be no more than 0 characters"
    let duplicate := Finding.duplicate place "a"
    (nested.Plain ∧ listed.Plain ∧ nested.text = listed.text ∧ nested = listed) ∧
      (long.place ∈ (policy.check settings).places ∧
        duplicate.place ∈ (policy.check settings).places ∧
        long.place.Plain ∧
        long.place.text = "spec.rules[1].name" ∧
        long.place.text = duplicate.place.text ∧
        long.place = duplicate.place) := by
  intro nested listed settings policy place long duplicate
  obtain ⟨ofPlaces, ofReports⟩ := check_places_told_apart
  obtain ⟨plain, toldApart⟩ := ofReports settings policy
  have nestedPlain : nested.Plain := (rulePlace_plain 12).child (by decide)
  have reported : long ∈ (policy.check settings).findings ∧
      duplicate ∈ (policy.check settings).findings := by decide
  have longListed : long.place ∈ (policy.check settings).places :=
    List.mem_append_left _ (List.mem_map_of_mem reported.1)
  have duplicateListed : duplicate.place ∈ (policy.check settings).places :=
    List.mem_append_left _ (List.mem_map_of_mem reported.2)
  refine ⟨⟨nestedPlain, nestedPlain, rfl, ?_⟩, longListed, duplicateListed,
    plain _ longListed, by decide, rfl, ?_⟩
  · exact ofPlaces nested listed nestedPlain nestedPlain rfl
  · exact toldApart _ longListed _ duplicateListed rfl

end Policy

end AdmissionPolicy
