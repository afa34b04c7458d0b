import AdmissionPolicy.Dict
import AdmissionPolicy.Rule

/-!
Settings of the checks.
-/

namespace AdmissionPolicy

structure Settings where
  clusterKinds : TextSet
  /-- Decides in place of the policy whether it is namespaced. -/
  forceNamespaced : Option Bool
  /-- The longest rule name that is allowed, in octets. -/
  maxNameLength : Nat
  warnOnSkipped : Bool
  deriving DecidableEq

namespace Settings

def builtinClusterKinds : List String :=
  [ "APIService",
    "CertificateSigningRequest",
    "ClusterRole",
    "ClusterRoleBinding",
    "ComponentStatus",
    "CSIDriver",
    "CSINode",
    "CustomResourceDefinition",
    "IngressClass",
    "MutatingWebhookConfiguration",
    "Namespace",
    "Node",
    "PersistentVolume",
    "PriorityClass",
    "RuntimeClass",
    "StorageClass",
    "ValidatingWebhookConfiguration",
    "VolumeAttachment" ]

def standard : Settings :=
  { clusterKinds := .ofList builtinClusterKinds
    forceNamespaced := none
    maxNameLength := Rule.maxNameLength
    warnOnSkipped := true }

instance : Inhabited Settings := ⟨standard⟩

def withClusterKinds (settings : Settings) (kinds : List String) : Settings :=
  { settings with clusterKinds := .ofList kinds }

def addClusterKind (settings : Settings) (kind : String) : Settings :=
  { settings with clusterKinds := settings.clusterKinds.insert kind () }

def withForceNamespaced (settings : Settings) (namespaced : Bool) : Settings :=
  { settings with forceNamespaced := some namespaced }

def withMaxNameLength (settings : Settings) (length : Nat) : Settings :=
  { settings with maxNameLength := length }

def withWarnOnSkipped (settings : Settings) (warn : Bool) : Settings :=
  { settings with warnOnSkipped := warn }

end Settings

end AdmissionPolicy
