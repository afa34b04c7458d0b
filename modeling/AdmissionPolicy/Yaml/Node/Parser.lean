import AdmissionPolicy.Yaml.Node.Basic
import AdmissionPolicy.Yaml.Token.Scanner

/-!
The document of a YAML text. A text holds one document at most; a text without a document reads like
one with an empty node.
-/

namespace AdmissionPolicy.Yaml

/-- What was read of a document.

An anchor gets the number of the names of anchors that there were so far. Numbers may therefore
repeat once a name is used anew; the node that started last has a number then. -/
structure Reading where
  tokens : List Token
  handles : List (String × String)
  names : List (String × Nat)
  /-- For numbers of anchors, the latest first: the order in which the nodes started. -/
  starts : List (Nat × Nat)
  nodes : List (Nat × Node)

abbrev Parse := StateT Reading Option

namespace Parse

def peek : Parse Token :=
  return (← get).tokens.headD .textEnd

def skip : Parse Unit :=
  modify fun reading => { reading with tokens := reading.tokens.drop 1 }

def expect (token : Token) : Parse Unit := do
  if (← peek) == token then skip else failure

/-! ### Properties of nodes -/

def resolveTag (handle suffix : String) : Parse String := do
  if handle.isEmpty then return suffix
  match (← get).handles.lookup handle with
  | some start => return start ++ suffix
  | none => failure

def properties : Parse (Option String × Option String) := do
  match ← peek with
  | .anchor name =>
      skip
      match ← peek with
      | .tag handle suffix =>
          skip
          return (some name, some (← resolveTag handle suffix))
      | _ => return (some name, none)
  | .tag handle suffix =>
      skip
      match ← peek with
      | .anchor name =>
          skip
          return (some name, some (← resolveTag handle suffix))
      | _ => return (none, some (← resolveTag handle suffix))
  | _ => return (none, none)

def nameAnchor (name : Option String) : Parse (Option Nat) := do
  match name with
  | none => return none
  | some name =>
      let reading ← get
      let number := reading.names.length
      let names := reading.names.filter (·.1 != name)
      let order := reading.starts.length
      set { reading with
        names := (name, number) :: names, starts := (number, order) :: reading.starts }
      return some order

def keep (order : Option Nat) (node : Node) : Parse Node := do
  match order with
  | none => return node
  | some order =>
      modify fun reading => { reading with nodes := (order, node) :: reading.nodes }
      return node

def referTo (name : String) : Parse Node := do
  match (← get).names.lookup name with
  | some number => return .reference number
  | none => failure

/-- The tag `!` alone says that a scalar has no other tag. -/
def scalarTag (tag : Option String) : Option String :=
  tag.filter (· != "!")

/-! ### Nodes -/

inductive Context
  | flow
  | block
  /-- In a block map, where the items of a list need no indentation. -/
  | blockMap
  deriving DecidableEq

def bare (order : Option Nat) (tag : Option String) : Parse Node :=
  if order.isNone && tag.isNone then failure else keep order (.scalar tag .plain "")

def orBlank (stops : Token → Bool) (node : Parse Node) : Parse Node := do
  if stops (← peek) then return .blank else node

def endsItem (token : Token) : Bool :=
  token == .item || token == .blockEnd

def endsMember (token : Token) : Bool :=
  token == .key || token == .value || token == .blockEnd

def endsFlowItem (token : Token) : Bool :=
  token == .comma || token == .flowListEnd

def endsFlowMember (token : Token) : Bool :=
  token == .comma || token == .flowMapEnd

def valueOrBlank (stops : Token → Bool) (node : Parse Node) : Parse Node := do
  if (← peek) == .value then
    skip
    orBlank stops node
  else return .blank

mutual

def node (context : Context) : Nat → Parse Node
  | 0 => failure
  | fuel + 1 => do
      match ← peek with
      | .reference name =>
          skip
          referTo name
      | _ =>
          let (anchor, tag) ← properties
          let order ← nameAnchor anchor
          match ← peek with
          | .scalar style text =>
              skip
              keep order (.scalar (scalarTag tag) style text)
          | .flowListStart =>
              skip
              keep order (.list tag (← flowItems true fuel))
          | .flowMapStart =>
              skip
              keep order (.map tag (← flowMembers true fuel))
          | .item =>
              if context = .blockMap then keep order (.list tag (← looseItems fuel))
              else bare order tag
          | .blockListStart =>
              if context = .flow then bare order tag
              else
                skip
                keep order (.list tag (← blockItems fuel))
          | .blockMapStart =>
              if context = .flow then bare order tag
              else
                skip
                keep order (.map tag (← blockMembers fuel))
          | _ => bare order tag

def blockItems : Nat → Parse (List Node)
  | 0 => failure
  | fuel + 1 => do
      if (← peek) == .item then
        skip
        let item ← orBlank endsItem (node .block fuel)
        return item :: (← blockItems fuel)
      else
        expect .blockEnd
        return []

def looseItems : Nat → Parse (List Node)
  | 0 => failure
  | fuel + 1 => do
      if (← peek) == .item then
        skip
        let item ← orBlank (fun token => endsItem token || endsMember token) (node .block fuel)
        return item :: (← looseItems fuel)
      else return []

def blockMembers : Nat → Parse (List (Node × Node))
  | 0 => failure
  | fuel + 1 => do
      if (← peek) == .key then
        skip
        let key ← orBlank endsMember (node .blockMap fuel)
        let value ← valueOrBlank endsMember (node .blockMap fuel)
        return (key, value) :: (← blockMembers fuel)
      else
        expect .blockEnd
        return []

/-- Items in brackets. A pair with a colon is a map of its own; where the key of a pair is left out
behind a question mark, the sign that shows this is passed over. -/
def flowItems (first : Bool) : Nat → Parse (List Node)
  | 0 => failure
  | fuel + 1 => do
      if (← peek) == .flowListEnd then
        skip
        return []
      if !first then expect .comma
      match ← peek with
      | .flowListEnd =>
          skip
          return []
      | .key =>
          skip
          let stops token := endsFlowItem token || token == .value
          let keyless := stops (← peek)
          let key ← orBlank stops (node .flow fuel)
          if keyless then skip
          let value ← valueOrBlank endsFlowItem (node .flow fuel)
          return .map none [(key, value)] :: (← flowItems false fuel)
      | _ =>
          let item ← node .flow fuel
          return item :: (← flowItems false fuel)

def flowMembers (first : Bool) : Nat → Parse (List (Node × Node))
  | 0 => failure
  | fuel + 1 => do
      if (← peek) == .flowMapEnd then
        skip
        return []
      if !first then expect .comma
      match ← peek with
      | .flowMapEnd =>
          skip
          return []
      | .key =>
          skip
          let stops token := endsFlowMember token || token == .value
          let key ← orBlank stops (node .flow fuel)
          let value ← valueOrBlank endsFlowMember (node .flow fuel)
          return (key, value) :: (← flowMembers false fuel)
      | _ =>
          let key ← node .flow fuel
          return (key, .blank) :: (← flowMembers false fuel)

end

/-! ### Documents -/

def isFrame : Token → Bool
  | .version .. | .tagHandle .. | .documentStart | .documentEnd | .textEnd => true
  | _ => false

def directives (versioned : Bool) : Nat → Parse Unit
  | 0 => failure
  | fuel + 1 => do
      match ← peek with
      | .version major minor =>
          if versioned || major != 1 || (minor != 1 && minor != 2) then failure
          else
            skip
            directives true fuel
      | .tagHandle handle start =>
          let reading ← get
          if (reading.handles.lookup handle).isSome then failure
          else
            set { reading with handles := (handle, start) :: reading.handles }
            skip
            directives versioned fuel
      | _ => return

def standardHandles : List (String × String) :=
  [("!", "!"), ("!!", "tag:yaml.org,2002:")]

def finish : Nat → Parse Unit
  | 0 => failure
  | fuel + 1 => do
      if (← peek) == .documentEnd then
        skip
        finish fuel
      else expect .textEnd

def root (fuel : Nat) : Parse Node := do
  let next ← peek
  if next == .textEnd then return .blank
  let marked := isFrame next && next != .documentEnd
  if marked then
    directives false fuel
    expect .documentStart
  modify fun reading => { reading with handles := reading.handles ++ standardHandles }
  let root ← if marked then orBlank isFrame (node .block fuel) else node .block fuel
  finish fuel
  return root

end Parse

def Reading.anchors (reading : Reading) : List (Nat × Node) :=
  reading.starts.filterMap fun (number, order) =>
    (reading.nodes.lookup order).map (number, ·)

def parse? (text : String) : Option Document := do
  let tokens ← tokens? text
  let (root, reading) ← Parse.root (3 * tokens.length + 3) ⟨tokens, [], [], [], []⟩
  return ⟨root, reading.anchors⟩

end AdmissionPolicy.Yaml
