import AdmissionPolicy.Yaml.Token.Basic

/-!
YAML documents: trees of tagged nodes, in which a reference may stand for the node of an anchor.
-/

namespace AdmissionPolicy.Yaml

inductive Node
  | reference (anchor : Nat)
  | scalar (tag : Option String) (style : Style) (text : String)
  | list (tag : Option String) (items : List Node)
  | map (tag : Option String) (members : List (Node × Node))
  deriving Inhabited, Repr

namespace Node

def blank : Node := .scalar none .plain ""

mutual

/-- The number of marks of a tree: one for a reference or a scalar, and two around the parts of a
list or a map. -/
def size : Node → Nat
  | reference _ => 1
  | scalar .. => 1
  | list _ items => sizeOfItems items + 2
  | map _ members => sizeOfMembers members + 2

def sizeOfItems : List Node → Nat
  | [] => 0
  | item :: rest => size item + sizeOfItems rest

def sizeOfMembers : List (Node × Node) → Nat
  | [] => 0
  | (key, value) :: rest => size key + size value + sizeOfMembers rest

end

end Node

structure Document where
  root : Node
  anchors : List (Nat × Node)
  deriving Inhabited, Repr

end AdmissionPolicy.Yaml
