import AdmissionPolicy.Codec.Rule
import AdmissionPolicy.Policy.Basic

/-!
Policies in documents. Most fields of a policy are written even if they are empty.
-/

namespace AdmissionPolicy

open Source
open Json (memberIf memberOf)

section Decode

variable {σ : Type} [Source σ]

def Uuid.decode (value : σ) : Decoded Uuid := do
  (Uuid.parse (← Source.text .uuid value)).mapError DecodeError.uuid

def Timestamp.decode (value : σ) : Decoded Timestamp := do
  (Timestamp.parse (← Source.text .timestamp value)).mapError DecodeError.timestamp

namespace Policy

def Metadata.shape : RecordShape :=
  ⟨"PolicyMetadata", ["name", "namespace", "uid", "creationTimestamp", "annotations"]⟩

def Metadata.decode (value : σ) : Decoded Metadata := do
  let fields ← record shape value
  let name ← fields.withDefault "name" "" string
  let namespaceName ← fields.optional "namespace" string
  let uid ← fields.optional "uid" Uuid.decode
  let created ← fields.optional "creationTimestamp" Timestamp.decode
  let annotations ← fields.withDefault "annotations" .empty stringMap
  return { name, namespaceName, uid, created, annotations }

def Spec.shape : RecordShape :=
  ⟨"PolicySpec", ["rules", "validationFailureAction", "background"]⟩

def Spec.decode (value : σ) : Decoded Spec := do
  let fields ← record shape value
  let rules ← fields.withDefault "rules" [] (listOf Rule.decode)
  let failureAction ← fields.optional "validationFailureAction" string
  let background ← fields.optional "background" flag
  return { rules, failureAction, background }

def shape : RecordShape :=
  ⟨"Policy", ["apiVersion", "kind", "metadata", "spec"]⟩

def decode (value : σ) : Decoded Policy := do
  let fields ← record shape value
  let apiVersion ← fields.withDefault "apiVersion" "" string
  let kind ← fields.withDefault "kind" clusterKind string
  let metadata ← fields.withDefault "metadata" default Metadata.decode
  let spec ← fields.withDefault "spec" default Spec.decode
  return { apiVersion, kind, metadata, spec }

end Policy

end Decode

namespace Policy

def Metadata.encode (metadata : Metadata) : Json :=
  .object ([("name", .text metadata.name)]
    ++ memberOf "namespace" metadata.namespaceName .text
    ++ memberOf "uid" metadata.uid (fun uid => .text uid.text)
    ++ memberOf "creationTimestamp" metadata.created (fun created => .text created.text)
    ++ memberIf (!metadata.annotations.isEmpty) "annotations"
      (Json.ofTextDict metadata.annotations))

def Spec.encode (spec : Spec) : Json :=
  .object ([("rules", .list (spec.rules.map Rule.encode))]
    ++ memberOf "validationFailureAction" spec.failureAction .text
    ++ memberOf "background" spec.background .bool)

def members (policy : Policy) : List (String × Json) :=
  [ ("apiVersion", .text policy.apiVersion), ("kind", .text policy.kind),
    ("metadata", policy.metadata.encode), ("spec", policy.spec.encode) ]

def encode (policy : Policy) : Json :=
  .object policy.members

end Policy

end AdmissionPolicy
