import AdmissionPolicy.Document.Source
import AdmissionPolicy.Yaml.Node.Parser
import AdmissionPolicy.Yaml.Scalar.Value

/-!
Policies read from YAML documents.

A scalar is taken as what is wanted: as a text whatever it looks like, as nothing or as an empty
list or object if it is plain and empty. Only where nothing is said about a value its looks decide
what it is. References stand for the nodes of their anchors.
-/

namespace AdmissionPolicy.Yaml

/-- A node of a document: the nodes of the anchors, how many references a value may follow, how many
lists and objects may still be opened, and the node. -/
structure View where
  anchors : List (Nat × Node)
  jumps : Nat
  depth : Nat
  node : Node

def depthLimit : Nat := 128

/-- A value may follow so many references for each mark of the document. -/
def jumpRate : Nat := 100

def Document.view (document : Document) : View :=
  ⟨document.anchors, document.root.size * jumpRate, depthLimit, document.root⟩

def Node.found : Node → Found
  | .scalar _ _ text => .text text
  | .list .. => .list
  | .map .. => .object
  | .reference _ => .tagged

def Node.isEmptyPlain : Node → Bool
  | .scalar _ style text => style == .plain && text.isEmpty
  | _ => false

/-! ### Values without a given shape -/

/-- Follows references; the state is how many of them may still be followed. -/
abbrev Walk := StateT Nat Decoded

namespace Walk

def resolve (anchors : List (Nat × Node)) : Node → Walk Node
  | .reference number => do
      match ← get with
      | 0 => throw .tooManyReferences
      | left + 1 =>
          set left
          return (anchors.lookup number).getD .blank
  | node => return node

/-- A list or an object must not have a tag of the document's own. -/
def checkTag (tag : Option String) : Walk Unit :=
  if (Tag.ownName? tag).isSome then throw (.wrongType .tagged .text) else return

def keyText (anchors : List (Nat × Node)) (key : Node) : Walk String := do
  match ← resolve anchors key with
  | .scalar _ _ text => return text
  | _ => throw .keyIsNotText

def toJson (anchors : List (Nat × Node)) : Nat → Node → Walk Json
  | 0, node => do
      match ← resolve anchors node with
      | .scalar tag style text => (← scalarContent tag style text).toJson
      | _ => throw .tooDeep
  | depth + 1, node => do
      match ← resolve anchors node with
      | .scalar tag style text => (← scalarContent tag style text).toJson
      | .list tag items =>
          checkTag tag
          return .list (← items.mapM (toJson anchors depth))
      | .map tag members =>
          checkTag tag
          let members ← members.mapM fun (key, value) => do
            return (← keyText anchors key, ← toJson anchors depth value)
          return .object members
      | .reference _ => throw .tooManyReferences

def toContent (anchors : List (Nat × Node)) : Nat → Node → Walk Content
  | 0, node => do
      match ← resolve anchors node with
      | .scalar tag style text => scalarContent tag style text
      | _ => throw .tooDeep
  | depth + 1, node => do
      match ← resolve anchors node with
      | .scalar tag style text => scalarContent tag style text
      | .list tag items =>
          checkTag tag
          return .list (← items.mapM (toContent anchors depth))
      | .map tag members =>
          checkTag tag
          return .object (← members.mapM fun (key, value) => do
            return (← toContent anchors depth key, ← toContent anchors depth value))
      | .reference _ => throw .tooManyReferences

end Walk

/-! ### Values of a given shape -/

namespace View

def part (view : View) (node : Node) : View :=
  { view with depth := view.depth - 1, node }

def target (view : View) : Node :=
  match view.node with
  | .reference number => (view.anchors.lookup number).getD .blank
  | node => node

def text (wanted : Wanted) (view : View) : Decoded String :=
  match view.target with
  | .scalar _ _ text => .ok text
  | node => .error (.wrongType node.found wanted)

def opened (view : View) : Decoded Unit :=
  if view.depth = 0 then .error .tooDeep else .ok ()

def flag (view : View) : Decoded Bool :=
  match view.target with
  | .scalar tag style text =>
      let plain := style == .plain || (style == .literal && tag == some Tag.bool)
      match if plain then boolWord? text else none with
      | some value => .ok value
      | none => .error (.wrongType (.text text) .flag)
  | node => .error (.wrongType node.found .flag)

def isAbsent : Node → Decoded Bool
  | .scalar tag style text =>
      if style ≠ .plain then .ok false
      else
        match tag with
        | none => .ok (text.isEmpty || isNullWord text)
        | some tag =>
            if tag ≠ Tag.null then .ok false
            else if isNullWord text then .ok true
            else .error (misfit text .nothing)
  | _ => .ok false

def present (view : View) : Decoded (Option View) := do
  if ← isAbsent view.target then return none else return some view

def items (view : View) : Decoded (List View) := do
  match view.target with
  | .list _ items =>
      view.opened
      return items.map view.part
  | node =>
      if node.isEmptyPlain then return [] else throw (.wrongType node.found .list)

def members (wanted : Wanted) (view : View) : Decoded (List (String × View)) := do
  match view.target with
  | .map _ members =>
      view.opened
      members.mapM fun (key, value) => return (← (view.part key).text .text, view.part value)
  | node =>
      if node.isEmptyPlain then return [] else throw (.wrongType node.found wanted)

def record (shape : RecordShape) (view : View) : Decoded (Fields View) := do
  let (own, _) ← Fields.separate shape.fields (← view.members (.record shape.name))
  return .named own

/-- A choice is named by a scalar, or by a tag of the document's own. -/
def choice (view : View) : Decoded (String × Option View) :=
  match view.target with
  | .scalar tag style text =>
      match Tag.ownName? tag with
      | some name => .ok (name, some { view with node := .scalar none style text })
      | none => .ok (text, none)
  | .list tag items =>
      match Tag.ownName? tag with
      | some name => .ok (name, some { view with node := .list none items })
      | none => .error (.wrongType .list .choice)
  | .map tag members =>
      match Tag.ownName? tag with
      | some name => .ok (name, some { view with node := .map none members })
      | none => .error (.wrongType .object .choice)
  | .reference _ => .error (.wrongType .tagged .choice)

def nothing (view : View) : Decoded Unit := do
  if ← isAbsent view.target then return else throw (.wrongType view.target.found .nothing)

def verbatim (view : View) : Decoded Value := do
  return .ofJson (← (Walk.toJson view.anchors view.depth view.node).run' view.jumps)

def content (view : View) : Decoded Content :=
  (Walk.toContent view.anchors view.depth view.node).run' view.jumps

instance : Source View where
  text := text
  flag := flag
  present := present
  items := items
  members := members
  record := record
  choice _ := choice
  nothing := nothing
  verbatim := verbatim
  content := content

end View

end AdmissionPolicy.Yaml
