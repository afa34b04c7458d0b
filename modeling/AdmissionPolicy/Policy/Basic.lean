import AdmissionPolicy.Rule
import AdmissionPolicy.Timestamp
import AdmissionPolicy.Uuid

/-!
Policies: named collections of rules, for a whole cluster or for one namespace.
-/

namespace AdmissionPolicy

namespace Policy

structure Metadata where
  name : String
  namespaceName : Option String
  uid : Option Uuid
  created : Option Timestamp
  annotations : Dict String
  deriving DecidableEq

instance : Inhabited Metadata := ⟨"", none, none, none, .empty⟩

structure Spec where
  rules : List Rule
  failureAction : Option String
  background : Option Bool
  deriving BEq

instance : Inhabited Spec := ⟨[], none, none⟩

end Policy

structure Policy where
  apiVersion : String
  kind : String
  metadata : Policy.Metadata
  spec : Policy.Spec
  deriving BEq

namespace Policy

def clusterKind : String := "ClusterPolicy"

def namespacedKind : String := "Policy"

instance : Inhabited Policy := ⟨"", clusterKind, default, default⟩

def forCluster (name : String) (uid : Uuid) (created : Timestamp) : Policy :=
  { apiVersion := "kyverno.io/v1"
    kind := clusterKind
    metadata := { (default : Metadata) with name, uid := some uid, created := some created }
    spec := default }

def forNamespace (name namespaceName : String) (uid : Uuid) (created : Timestamp) : Policy :=
  { forCluster name uid created with
    kind := namespacedKind
    metadata := {
      (forCluster name uid created).metadata with namespaceName := some namespaceName } }

def rules (policy : Policy) : List Rule := policy.spec.rules

def addRule (policy : Policy) (rule : Rule) : Policy :=
  { policy with spec.rules := policy.spec.rules ++ [rule] }

def getRule? (policy : Policy) (name : String) : Option Rule :=
  policy.spec.rules.find? (·.name == name)

/-- A policy is namespaced by its kind, or because it names a namespace. -/
def isNamespaced (policy : Policy) : Bool :=
  policy.kind == namespacedKind || policy.metadata.namespaceName.any (!·.isEmpty)

def firstOccurrences : List String → List String
  | [] => []
  | value :: rest => value :: (firstOccurrences rest).filter (· != value)

theorem mem_firstOccurrences_iff {value : String} {values : List String} :
    value ∈ firstOccurrences values ↔ value ∈ values := by
  induction values with
  | nil => simp [firstOccurrences]
  | cons first rest ih =>
      by_cases same : value = first
      · simp [firstOccurrences, same]
      · simp [firstOccurrences, same, ih]

def matchKinds (policy : Policy) : List String :=
  firstOccurrences (policy.spec.rules.flatMap Rule.matchKinds)

def excludeKinds (policy : Policy) : List String :=
  firstOccurrences (policy.spec.rules.flatMap Rule.excludeKinds)

end Policy

end AdmissionPolicy
