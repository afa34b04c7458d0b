import AdmissionPolicy.Json.Canonical

/-!
What a rule does to the requests it selects. The bodies of effects are looked into only as far as
to tell whether they are given; keys that have no meaning here are kept as they stand.
-/

namespace AdmissionPolicy.Effect

structure Mutation where
  strategicMerge : Option Value
  jsonPatches : String
  targets : List Value
  forEach : List Value
  extra : Dict Value
  deriving BEq

namespace Mutation

def empty : Mutation := ⟨none, "", [], [], .empty⟩

instance : Inhabited Mutation := ⟨empty⟩

def isEmpty (effect : Mutation) : Bool :=
  effect.strategicMerge.isNone && effect.jsonPatches.isEmpty && effect.targets.isEmpty
    && effect.forEach.isEmpty && effect.extra.isEmpty

theorem isEmpty_iff {effect : Mutation} : effect.isEmpty = true ↔ effect = empty := by
  cases effect
  simp [isEmpty, empty, Dict.isEmpty_iff, and_assoc]

end Mutation

structure Validation where
  message : String
  pattern : Option Value
  anyPattern : Option Value
  deny : Option Value
  forEach : List Value
  podSecurity : Option Value
  extra : Dict Value
  deriving BEq

namespace Validation

def empty : Validation := ⟨"", none, none, none, [], none, .empty⟩

instance : Inhabited Validation := ⟨empty⟩

def isEmpty (effect : Validation) : Bool :=
  effect.message.isEmpty && effect.pattern.isNone && effect.anyPattern.isNone
    && effect.deny.isNone && effect.forEach.isEmpty && effect.podSecurity.isNone
    && effect.extra.isEmpty

theorem isEmpty_iff {effect : Validation} : effect.isEmpty = true ↔ effect = empty := by
  cases effect
  simp [isEmpty, empty, Dict.isEmpty_iff, and_assoc]

end Validation

structure Generation where
  apiVersion : String
  kind : String
  name : String
  namespaceName : String
  synchronize : Bool
  data : Option Value
  clone : Option Value
  extra : Dict Value
  deriving BEq

namespace Generation

def empty : Generation := ⟨"", "", "", "", false, none, none, .empty⟩

instance : Inhabited Generation := ⟨empty⟩

def isEmpty (effect : Generation) : Bool :=
  effect.apiVersion.isEmpty && effect.kind.isEmpty && effect.name.isEmpty
    && effect.namespaceName.isEmpty && !effect.synchronize && effect.data.isNone
    && effect.clone.isNone && effect.extra.isEmpty

theorem isEmpty_iff {effect : Generation} : effect.isEmpty = true ↔ effect = empty := by
  cases effect
  simp [isEmpty, empty, Dict.isEmpty_iff, and_assoc]

end Generation

structure ImageCheck where
  references : List String
  attestors : List Value
  attestations : List Value
  mutateDigest : Option Bool
  verifyDigest : Option Bool
  extra : Dict Value
  deriving BEq

namespace ImageCheck

def empty : ImageCheck := ⟨[], [], [], none, none, .empty⟩

instance : Inhabited ImageCheck := ⟨empty⟩

def isEmpty (effect : ImageCheck) : Bool :=
  effect.references.isEmpty && effect.attestors.isEmpty && effect.attestations.isEmpty
    && effect.mutateDigest.isNone && effect.verifyDigest.isNone && effect.extra.isEmpty

theorem isEmpty_iff {effect : ImageCheck} : effect.isEmpty = true ↔ effect = empty := by
  cases effect
  simp [isEmpty, empty, Dict.isEmpty_iff, and_assoc]

end ImageCheck

end AdmissionPolicy.Effect
