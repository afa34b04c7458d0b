import AdmissionPolicy.Document.Source
import AdmissionPolicy.Json.Draft

/-!
Policies read from JSON values, from content taken down earlier, and from JSON texts.
-/

namespace AdmissionPolicy

/-! ### JSON values -/

namespace Json

def found : Json → Found
  | null => .null
  | bool value => .bool value
  | number value => .number value
  | text value => .text value
  | list _ => .list
  | object _ => .object

/-- The fields of a record. Other members of an object are passed over; a list may end early, but
not go on behind the last field. -/
def record (shape : RecordShape) : Json → Decoded (Fields Json)
  | object members => do
      let (own, _) ← Fields.separate shape.fields members
      return .named own
  | list items =>
      if shape.fields.length < items.length then .error (.wrongLength items.length .fewerItems)
      else .ok (.positional shape items)
  | value => .error (.wrongType value.found (.record shape.name))

def choice : Json → Decoded (String × Option Json)
  | text name => .ok (name, none)
  | object [(name, value)] => .ok (name, some value)
  | object _ => .error (.wrongValue .object .singleKey)
  | value => .error (.wrongType value.found .choice)

instance : Source Json where
  text wanted
    | text value => .ok value
    | value => .error (.wrongType value.found wanted)
  flag
    | bool value => .ok value
    | value => .error (.wrongType value.found .flag)
  present
    | null => .ok none
    | value => .ok (some value)
  items
    | list items => .ok items
    | value => .error (.wrongType value.found .list)
  members wanted
    | object members => .ok members
    | value => .error (.wrongType value.found wanted)
  record := record
  choice _ := choice
  nothing
    | null => .ok ()
    | value => .error (.wrongType value.found .nothing)
  verbatim value := .ok (.ofJson value)
  content value := .ok (.ofJson value)

end Json

/-! ### Content taken down earlier -/

namespace Content

/-- The name that a key stands for: a text for itself, and a number for the name at its place. -/
def keyName? (names : List String) : Content → Decoded (Option String)
  | text key => .ok (some key)
  | number (.whole (.ofNat place)) => .ok names[place]?
  | _ => .error .keyIsNotText

def record (shape : RecordShape) : Content → Decoded (Fields Content)
  | object members => do
      let keyed ← members.mapM fun (key, value) => return (← keyName? shape.fields key, value)
      let (own, _) ← Fields.separate shape.fields (keyed.filterMap fun (key, value) =>
        key.map fun key => (key, value))
      return .named own
  | list items =>
      if shape.fields.length < items.length then
        .error (.wrongLength items.length (.itemCount shape.fields.length))
      else .ok (.positional shape items)
  | value => .error (.wrongType value.found (.record shape.name))

def choice (choices : List String) : Content → Decoded (String × Option Content)
  | text name => .ok (name, none)
  | object [(key, value)] => do
      match ← keyName? choices key with
      | some name => return (name, some value)
      | none => throw .keyIsNotText
  | object _ => .error (.wrongValue .object .singleKey)
  | value => .error (.wrongType value.found .choice)

instance : Source Content where
  text wanted
    | text value => .ok value
    | value => .error (.wrongType value.found wanted)
  flag
    | bool value => .ok value
    | value => .error (.wrongType value.found .flag)
  present
    | null => .ok none
    | value => .ok (some value)
  items
    | list items => .ok items
    | value => .error (.wrongType value.found .list)
  members wanted
    | object members => members.mapM fun (key, value) =>
        match key with
        | text key => .ok (key, value)
        | _ => .error .keyIsNotText
    | value => .error (.wrongType value.found wanted)
  record := record
  choice := choice
  nothing
    | null => .ok ()
    | value => .error (.wrongType value.found .nothing)
  verbatim := toValue
  content := .ok

end Content

/-! ### JSON texts -/

namespace Json.Draft

def lift {α : Type} (read : Except ReadError α) : Decoded α :=
  read.mapError .json

def mismatch (wanted : Wanted) : Draft → DecodeError
  | null => .wrongType .null wanted
  | bool value => .wrongType (.bool value) wanted
  | number value => .wrongType (.number value) wanted
  | text value => .wrongType (.text value) wanted
  | valueless error => .json error
  | tooDeep _ => .json .tooDeep
  | list _ _ => .wrongType .list wanted
  | object _ _ => .wrongType .object wanted
  | broken fault => .json fault.reading

def readableMembers (members : List (Except ReadError String × Draft)) (fault : Option Fault) :
    Decoded (List (String × Draft)) := do
  lift (wantFault fault)
  members.mapM fun (key, value) => return (← lift key, value)

def endFault : Fault → ReadError
  | ⟨.trailingComma, _⟩ => .trailingComma
  | ⟨.endOfList, _⟩ => .endOfList
  | _ => .trailingCharacters

/-- The fields of a record. Members that are none of its fields have to be sound in form. -/
def record (shape : RecordShape) : Draft → Decoded (Fields Draft)
  | object members fault => do
      let (own, others) ← Fields.separate shape.fields (← readableMembers members fault)
      others.forM fun (_, value) => lift value.skip
      return .named own
  | list items fault =>
      if shape.fields.length < items.length then .error (.json .trailingCharacters)
      else
        match fault with
        | none => .ok (.positional shape items)
        | some fault =>
            if shape.fields.length = items.length then .error (.json (endFault fault))
            else .error (.json fault.reading)
  | value => .error (mismatch (.record shape.name) value)

def choice : Draft → Decoded (String × Option Draft)
  | text name => .ok (name, none)
  | object [(key, value)] fault => do
      lift (wantFault fault)
      return (← lift key, some value)
  | object _ (some fault) => .error (.json fault.reading)
  | object _ none => .error (.json .expectedValue)
  | valueless error => .error (.json error)
  | tooDeep _ => .error (.json .tooDeep)
  | broken fault => .error (.json fault.reading)
  | _ => .error (.json .expectedValue)

mutual

def toContent : Draft → Except ReadError Content
  | .null => .ok .null
  | .bool value => .ok (.bool value)
  | .number value => .ok (.number value)
  | .text value => .ok (.text value)
  | .valueless error => .error error
  | .tooDeep _ => .error .tooDeep
  | .broken fault => .error fault.reading
  | .list items fault => do
      let items ← toItems items
      wantFault fault
      return .list items
  | .object members fault => do
      let members ← toMembers members
      wantFault fault
      return .object members

def toItems : List Draft → Except ReadError (List Content)
  | [] => .ok []
  | item :: rest => do
      let item ← toContent item
      let rest ← toItems rest
      return item :: rest

def toMembers : List (Except ReadError String × Draft) →
    Except ReadError (List (Content × Content))
  | [] => .ok []
  | (key, value) :: rest => do
      let key ← key
      let value ← toContent value
      let rest ← toMembers rest
      return (.text key, value) :: rest

end

instance : Source Draft where
  text wanted
    | text value => .ok value
    | value => .error (mismatch wanted value)
  flag
    | bool value => .ok value
    | value => .error (mismatch .flag value)
  present
    | null => .ok none
    | value => .ok (some value)
  items
    | list items fault => do
        lift (wantFault fault)
        return items
    | value => .error (mismatch .list value)
  members wanted
    | object members fault => readableMembers members fault
    | value => .error (mismatch wanted value)
  record := record
  choice _ := choice
  nothing
    | null => .ok ()
    | value => .error (mismatch .nothing value)
  verbatim value := return .ofJson (← lift value.toJson)
  content value := lift value.toContent

end Json.Draft

end AdmissionPolicy
