import AdmissionPolicy.Codec.Selector
import AdmissionPolicy.Rule

/-!
Rules and their effects in documents. Keys of an effect that have no meaning here are kept beside
its fields, and written behind them.
-/

namespace AdmissionPolicy

open Source

/-! ### Reading -/

section Decode

variable {σ : Type} [Source σ]

def decodeValues : σ → Decoded (List Value) :=
  listOf verbatim

def decodeExtra (others : List (String × Content)) : Decoded (Dict Value) := do
  return .ofList (← membersOf Content.toValue others)

namespace Effect

def Mutation.shape : RecordShape :=
  ⟨"Mutation", ["patchStrategicMerge", "patchesJson6902", "targets", "foreach"]⟩

def Mutation.decode (value : σ) : Decoded Mutation := do
  let (fields, others) ← openRecord shape value
  let strategicMerge ← fields.optional "patchStrategicMerge" verbatim
  let jsonPatches ← fields.withDefault "patchesJson6902" "" string
  let targets ← fields.withDefault "targets" [] decodeValues
  let forEach ← fields.withDefault "foreach" [] decodeValues
  let extra ← decodeExtra others
  return { strategicMerge, jsonPatches, targets, forEach, extra }

def Validation.shape : RecordShape :=
  ⟨"Validation", ["message", "pattern", "anyPattern", "deny", "foreach", "podSecurity"]⟩

def Validation.decode (value : σ) : Decoded Validation := do
  let (fields, others) ← openRecord shape value
  let message ← fields.withDefault "message" "" string
  let pattern ← fields.optional "pattern" verbatim
  let anyPattern ← fields.optional "anyPattern" verbatim
  let deny ← fields.optional "deny" verbatim
  let forEach ← fields.withDefault "foreach" [] decodeValues
  let podSecurity ← fields.optional "podSecurity" verbatim
  let extra ← decodeExtra others
  return { message, pattern, anyPattern, deny, forEach, podSecurity, extra }

def Generation.shape : RecordShape :=
  ⟨"Generation", ["apiVersion", "kind", "name", "namespace", "synchronize", "data", "clone"]⟩

def Generation.decode (value : σ) : Decoded Generation := do
  let (fields, others) ← openRecord shape value
  let apiVersion ← fields.withDefault "apiVersion" "" string
  let kind ← fields.withDefault "kind" "" string
  let name ← fields.withDefault "name" "" string
  let namespaceName ← fields.withDefault "namespace" "" string
  let synchronize ← fields.withDefault "synchronize" false flag
  let data ← fields.optional "data" verbatim
  let clone ← fields.optional "clone" verbatim
  let extra ← decodeExtra others
  return { apiVersion, kind, name, namespaceName, synchronize, data, clone, extra }

def ImageCheck.shape : RecordShape :=
  ⟨"ImageVerification",
    ["imageReferences", "attestors", "attestations", "mutateDigest", "verifyDigest"]⟩

def ImageCheck.decode (value : σ) : Decoded ImageCheck := do
  let (fields, others) ← openRecord shape value
  let references ← fields.withDefault "imageReferences" [] strings
  let attestors ← fields.withDefault "attestors" [] decodeValues
  let attestations ← fields.withDefault "attestations" [] decodeValues
  let mutateDigest ← fields.optional "mutateDigest" flag
  let verifyDigest ← fields.optional "verifyDigest" flag
  let extra ← decodeExtra others
  return { references, attestors, attestations, mutateDigest, verifyDigest, extra }

end Effect

def Rule.shape : RecordShape :=
  ⟨"Rule",
    ["name", "context", "match", "exclude", "preconditions", "mutate", "validate", "generate",
      "verifyImages"]⟩

def Rule.decode (value : σ) : Decoded Rule := do
  let fields ← record shape value
  let name ← fields.withDefault "name" "" string
  let context ← fields.withDefault "context" [] decodeValues
  let matching ← fields.withDefault "match" .empty Selector.decode
  let excluding ← fields.withDefault "exclude" .empty Selector.decode
  let preconditions ← fields.optional "preconditions" verbatim
  let mutate ← fields.withDefault "mutate" .empty Effect.Mutation.decode
  let validate ← fields.withDefault "validate" .empty Effect.Validation.decode
  let generate ← fields.withDefault "generate" .empty Effect.Generation.decode
  let verifyImages ← fields.withDefault "verifyImages" [] (listOf Effect.ImageCheck.decode)
  return {
    name, context, matching, excluding, preconditions, mutate, validate, generate, verifyImages }

end Decode

/-! ### Writing -/

open Json (memberIf memberOf listMember textMember)

namespace Effect

def extraMembers (extra : Dict Value) : List (String × Json) :=
  extra.entries.map fun (key, value) => (key, value.json)

def Mutation.encode (effect : Mutation) : Json :=
  .object (memberOf "patchStrategicMerge" effect.strategicMerge Value.json
    ++ textMember "patchesJson6902" effect.jsonPatches
    ++ listMember "targets" effect.targets Value.json
    ++ listMember "foreach" effect.forEach Value.json
    ++ extraMembers effect.extra)

def Validation.encode (effect : Validation) : Json :=
  .object (textMember "message" effect.message
    ++ memberOf "pattern" effect.pattern Value.json
    ++ memberOf "anyPattern" effect.anyPattern Value.json
    ++ memberOf "deny" effect.deny Value.json
    ++ listMember "foreach" effect.forEach Value.json
    ++ memberOf "podSecurity" effect.podSecurity Value.json
    ++ extraMembers effect.extra)

def Generation.encode (effect : Generation) : Json :=
  .object (textMember "apiVersion" effect.apiVersion
    ++ textMember "kind" effect.kind
    ++ textMember "name" effect.name
    ++ textMember "namespace" effect.namespaceName
    ++ memberIf effect.synchronize "synchronize" (.bool effect.synchronize)
    ++ memberOf "data" effect.data Value.json
    ++ memberOf "clone" effect.clone Value.json
    ++ extraMembers effect.extra)

def ImageCheck.encode (effect : ImageCheck) : Json :=
  .object (listMember "imageReferences" effect.references .text
    ++ listMember "attestors" effect.attestors Value.json
    ++ listMember "attestations" effect.attestations Value.json
    ++ memberOf "mutateDigest" effect.mutateDigest .bool
    ++ memberOf "verifyDigest" effect.verifyDigest .bool
    ++ extraMembers effect.extra)

end Effect

def Rule.encode (rule : Rule) : Json :=
  .object (textMember "name" rule.name
    ++ listMember "context" rule.context Value.json
    ++ memberIf (!rule.matching.isEmpty) "match" rule.matching.encode
    ++ memberIf (!rule.excluding.isEmpty) "exclude" rule.excluding.encode
    ++ memberOf "preconditions" rule.preconditions Value.json
    ++ memberIf (!rule.mutate.isEmpty) "mutate" rule.mutate.encode
    ++ memberIf (!rule.validate.isEmpty) "validate" rule.validate.encode
    ++ memberIf (!rule.generate.isEmpty) "generate" rule.generate.encode
    ++ listMember "verifyImages" rule.verifyImages Effect.ImageCheck.encode)

end AdmissionPolicy
