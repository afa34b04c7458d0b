/-!
Who makes a request: subjects, and the roles bound to them.
-/

namespace AdmissionPolicy

structure Subject where
  kind : String
  name : String
  namespaceName : Option String
  group : Option String
  deriving DecidableEq, Repr

namespace Subject

def accessControlGroup : String := "rbac.authorization.k8s.io"

def user (name : String) : Subject :=
  ⟨"User", name, none, some accessControlGroup⟩

def userGroup (name : String) : Subject :=
  ⟨"Group", name, none, some accessControlGroup⟩

def serviceAccount (namespaceName name : String) : Subject :=
  ⟨"ServiceAccount", name, some namespaceName, none⟩

end Subject

/-- Criteria on who makes a request. An empty list leaves its dimension open. -/
structure Requester where
  roles : List String
  clusterRoles : List String
  subjects : List Subject
  deriving DecidableEq, Repr

namespace Requester

def empty : Requester := ⟨[], [], []⟩

instance : Inhabited Requester := ⟨empty⟩

def isEmpty (requester : Requester) : Bool :=
  requester.roles.isEmpty && requester.clusterRoles.isEmpty && requester.subjects.isEmpty

theorem isEmpty_iff {requester : Requester} : requester.isEmpty = true ↔ requester = empty := by
  cases requester
  simp [isEmpty, empty, and_assoc]

end Requester

end AdmissionPolicy
