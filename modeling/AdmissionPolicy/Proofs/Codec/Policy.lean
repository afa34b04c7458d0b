import AdmissionPolicy.Codec.Policy
import AdmissionPolicy.Proofs.Codec.Decoded
import AdmissionPolicy.Proofs.Codec.Identifier

/-!
Policies read back from the documents they were written to, if the time of their creation reads back
from its text.
-/

namespace AdmissionPolicy

open Source
open Json (Layout listed_memberIf listed_memberOf memberIf memberOf ofTextDict)

namespace Policy

def Unambiguous (policy : Policy) : Prop :=
  ∀ rule ∈ policy.rules, rule.Unambiguous

/-- The time of creation, where it is given, is what its text is read as. -/
def Metadata.TimeReadsBack (metadata : Metadata) : Prop :=
  ∀ created, metadata.created = some created → Timestamp.parse created.text = .ok created

section

variable {σ : Type} [Source σ] [JsonSource σ] (layout : Layout)

theorem Metadata.decode_document {metadata : Metadata} (time : metadata.TimeReadsBack) :
    decode (layout.document metadata.encode : σ) = .ok metadata := by
  have always : Listed [("name", Json.text metadata.name)] ["name"] := .refl _
  have listed := (((always.append
    (listed_memberOf "namespace" metadata.namespaceName .text)).append
    (listed_memberOf "uid" metadata.uid fun uid => .text uid.text)).append
    (listed_memberOf "creationTimestamp" metadata.created fun created => .text created.text)).append
    (listed_memberIf (!metadata.annotations.isEmpty) "annotations"
      (ofTextDict metadata.annotations))
  obtain ⟨fields, read, held⟩ := record_document (σ := σ) layout shape listed (by decide)
  have name : fields.withDefault "name" "" string = .ok metadata.name :=
    held.always (by simp) (string_document layout _)
  have namespaceName : fields.optional "namespace" string = .ok metadata.namespaceName :=
    held.optionalString (by simp)
  have uid : fields.optional "uid" Uuid.decode = .ok metadata.uid :=
    held.optionalText Uuid.text (by simp) fun uid _ => by
      rw [Uuid.decode, Source.text_document, ok_bind, uid.parse_text]
      rfl
  have created : fields.optional "creationTimestamp" Timestamp.decode = .ok metadata.created :=
    held.optionalText Timestamp.text (by simp) fun created given => by
      rw [Timestamp.decode, Source.text_document, ok_bind, time created given]
      rfl
  have annotations : fields.withDefault "annotations" .empty stringMap = .ok metadata.annotations :=
    held.part Dict.isEmpty_iff.1 (by simp) (stringMap_document layout _)
  rw [decode, encode, read, ok_bind, name, ok_bind, namespaceName, ok_bind, uid, ok_bind, created,
    ok_bind, annotations]
  rfl

theorem Spec.decode_document {spec : Spec} (clear : ∀ rule ∈ spec.rules, rule.Unambiguous) :
    decode (layout.document spec.encode : σ) = .ok spec := by
  have always : Listed [("rules", Json.list (spec.rules.map Rule.encode))] ["rules"] := .refl _
  have listed := (always.append
    (listed_memberOf "validationFailureAction" spec.failureAction .text)).append
    (listed_memberOf "background" spec.background .bool)
  obtain ⟨fields, read, held⟩ := record_document (σ := σ) layout shape listed (by decide)
  have rules : fields.withDefault "rules" [] (listOf Rule.decode) = .ok spec.rules :=
    held.always (by simp) (listOf_document layout fun rule present =>
      Rule.decode_document layout (clear rule present))
  have failureAction : fields.optional "validationFailureAction" string = .ok spec.failureAction :=
    held.optionalString (by simp)
  have background : fields.optional "background" flag = .ok spec.background :=
    held.flag (by simp)
  rw [decode, encode, read, ok_bind, rules, ok_bind, failureAction, ok_bind, background]
  rfl

theorem decode_document {policy : Policy} (clear : policy.Unambiguous)
    (time : policy.metadata.TimeReadsBack) :
    decode (layout.document policy.encode : σ) = .ok policy := by
  have listed : Listed policy.members shape.fields := .refl _
  obtain ⟨fields, read, held⟩ := record_document (σ := σ) layout shape listed (by decide)
  have apiVersion : fields.withDefault "apiVersion" "" string = .ok policy.apiVersion :=
    held.always (by simp [members]) (string_document layout _)
  have kind : fields.withDefault "kind" clusterKind string = .ok policy.kind :=
    held.always (by simp [members]) (string_document layout _)
  have metadata : fields.withDefault "metadata" default Metadata.decode = .ok policy.metadata :=
    held.always (by simp [members]) (Metadata.decode_document layout time)
  have spec : fields.withDefault "spec" default Spec.decode = .ok policy.spec :=
    held.always (by simp [members]) (Spec.decode_document layout clear)
  rw [decode, encode, read, ok_bind, apiVersion, ok_bind, kind, ok_bind, metadata, ok_bind, spec]
  rfl

end

/-! ### What is decoded -/

theorem Spec.decode_unambiguous {spec : Spec} {value : Json} (canonical : value.Canonical)
    (read : decode value = .ok spec) : ∀ rule ∈ spec.rules, rule.Unambiguous := by
  simp only [decode, bind_eq_ok_iff, pure_eq_ok_iff] at read
  obtain ⟨fields, record, rules, rulesRead, _, _, _, _, rfl⟩ := read
  refine (canonical.fields record).part (fun rules => ∀ rule ∈ rules, rule.Unambiguous) (by simp) ?_
    rulesRead
  intro listed listedCanonical listRead rule member
  obtain ⟨part, partCanonical, partRead⟩ := listedCanonical.mem_listOf listRead member
  exact Rule.decode_unambiguous partCanonical partRead

theorem decode_unambiguous {policy : Policy} {value : Json} (canonical : value.Canonical)
    (read : decode value = .ok policy) : policy.Unambiguous := by
  simp only [decode, bind_eq_ok_iff, pure_eq_ok_iff] at read
  obtain ⟨fields, record, _, _, _, _, _, _, spec, specRead, rfl⟩ := read
  have absent : ∀ rule ∈ (default : Spec).rules, rule.Unambiguous :=
    fun _ inNone => absurd inNone List.not_mem_nil
  exact (canonical.fields record).part (fun spec => ∀ rule ∈ spec.rules, rule.Unambiguous) absent
    (fun _ => Spec.decode_unambiguous) specRead

/-! ### Encoding and decoding -/

theorem decode_encode_iff {policy : Policy} (time : policy.metadata.TimeReadsBack) :
    decode policy.encode.canonical = .ok policy ↔ policy.Unambiguous :=
  ⟨decode_unambiguous policy.encode.canonical_canonical,
    fun clear => decode_document (σ := Json) .byKey clear time⟩

/-- Rules and policies are read back from the values they are encoded to, with the members as they
are written and as data. Those that were decoded from data meet the conditions for it. -/
theorem decode_encode :
    (∀ rule : Rule, rule.Unambiguous →
      Rule.decode rule.encode = .ok rule ∧ Rule.decode rule.encode.canonical = .ok rule) ∧
    (∀ (document : Value) (rule : Rule), Rule.decode document.json = .ok rule →
      rule.Unambiguous ∧
        Rule.decode rule.encode = .ok rule ∧ Rule.decode rule.encode.canonical = .ok rule) ∧
    (∀ policy : Policy, policy.Unambiguous → policy.metadata.TimeReadsBack →
      decode policy.encode = .ok policy ∧ decode policy.encode.canonical = .ok policy) ∧
    (∀ (document : Value) (policy : Policy), decode document.json = .ok policy →
      policy.Unambiguous ∧ (policy.metadata.TimeReadsBack →
        decode policy.encode = .ok policy ∧ decode policy.encode.canonical = .ok policy)) := by
  have rules (rule : Rule) (clear : rule.Unambiguous) :
      Rule.decode rule.encode = .ok rule ∧ Rule.decode rule.encode.canonical = .ok rule :=
    ⟨Rule.decode_document (σ := Json) .asWritten clear,
      Rule.decode_document (σ := Json) .byKey clear⟩
  have policies (policy : Policy) (clear : policy.Unambiguous)
      (time : policy.metadata.TimeReadsBack) :
      decode policy.encode = .ok policy ∧ decode policy.encode.canonical = .ok policy :=
    ⟨decode_document (σ := Json) .asWritten clear time,
      decode_document (σ := Json) .byKey clear time⟩
  refine ⟨rules, ?_, policies, ?_⟩
  · intro document rule read
    have clear := Rule.decode_unambiguous document.isCanonical read
    exact ⟨clear, rules rule clear⟩
  · intro document policy read
    have clear := decode_unambiguous document.isCanonical read
    exact ⟨clear, policies policy clear⟩

/-- Its annotations and label predicates are given, but empty, and one effect keeps a key that has
no meaning here. -/
def keptRule : Rule :=
  { Rule.ofName "keep" with
    matching := .ofFilter { Filter.empty with
      resources := { ResourceCriteria.empty with
        kinds := ["Pod"]
        annotations := some .empty
        labels := some .empty
        namespaceLabels := some .empty } }
    preconditions := some (.ofJson (.object []))
    mutate := { Effect.Mutation.empty with
      extra := .ofList [("mutateExistingOnPolicyUpdate", .ofJson (.bool true))] } }

def keptPolicy : Policy :=
  (forCluster "keep" ⟨0x0123456789abcdef0123456789abcdef, by decide⟩ ⟨63870000000, 5000000⟩).addRule
    keptRule

theorem keptRule_unambiguous : keptRule.Unambiguous where
  preconditions value held := by
    cases held
    exact Json.noConfusion
  mutate := ⟨notNull_none, by
    unfold Beside
    decide⟩
  validate := Effect.Validation.unambiguous_empty
  generate := Effect.Generation.unambiguous_empty
  verifyImages check inNone := absurd inNone List.not_mem_nil

theorem keptPolicy_timeReadsBack : keptPolicy.metadata.TimeReadsBack := by
  intro created given
  cases given
  decide +kernel

theorem decode_encode_kept :
    (keptRule.Unambiguous ∧ keptRule.matching.direct.resources.annotations = some .empty ∧
      Rule.decode keptRule.encode.canonical = .ok keptRule) ∧
    (keptPolicy.Unambiguous ∧ keptPolicy.metadata.TimeReadsBack ∧
      decode keptPolicy.encode.canonical = .ok keptPolicy) := by
  have ruleClear := keptRule_unambiguous
  have policyClear : keptPolicy.Unambiguous := by
    intro rule member
    cases List.mem_singleton.1 member
    exact ruleClear
  have time := keptPolicy_timeReadsBack
  have ruleRead := (decode_encode.1 keptRule ruleClear).2
  have policyRead := (decode_encode.2.2.1 keptPolicy policyClear time).2
  have ruleAgain := decode_encode.2.1 (.ofJson keptRule.encode) keptRule ruleRead
  have policyAgain := decode_encode.2.2.2 (.ofJson keptPolicy.encode) keptPolicy policyRead
  exact ⟨⟨ruleAgain.1, rfl, ruleAgain.2.2⟩, policyAgain.1, time, (policyAgain.2 time).2⟩

end Policy

end AdmissionPolicy
