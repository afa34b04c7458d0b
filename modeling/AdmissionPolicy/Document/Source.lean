import AdmissionPolicy.Document.Content

/-!
Kinds of documents that values of a policy are read from.

What a policy holds is said once, in terms of the questions below; each kind of document answers
them in its own way. A record is read from an object whose keys are its fields, and in most kinds of
documents also from a list of its fields' values in order.
-/

namespace AdmissionPolicy

structure RecordShape where
  name : String
  fields : List String

structure Fields (σ : Type) where
  given : List (String × σ)
  missing : String → DecodeError

class Source (σ : Type) where
  text (wanted : Wanted) : σ → Decoded String
  flag : σ → Decoded Bool
  /-- Nothing if the value only says that there is none. -/
  present : σ → Decoded (Option σ)
  items : σ → Decoded (List σ)
  members (wanted : Wanted) : σ → Decoded (List (String × σ))
  record (shape : RecordShape) : σ → Decoded (Fields σ)
  /-- The value as one of some choices: its name, and what stands with it. -/
  choice (choices : List String) : σ → Decoded (String × Option σ)
  nothing : σ → Decoded Unit
  verbatim : σ → Decoded Value
  content : σ → Decoded Content

namespace Fields

variable {σ α : Type}

def separate (names : List String) :
    List (String × σ) → Decoded (List (String × σ) × List (String × σ))
  | [] => .ok ([], [])
  | (key, value) :: rest => do
      let (own, others) ← separate names rest
      if key ∈ names then
        if own.any (fun member => member.1 == key) then .error (.duplicateField key)
        else .ok ((key, value) :: own, others)
      else .ok (own, (key, value) :: others)

def named (own : List (String × σ)) : Fields σ :=
  ⟨own, .missingField⟩

def positional (shape : RecordShape) (items : List σ) : Fields σ :=
  ⟨shape.fields.zip items,
    fun _ => .wrongLength items.length (.recordOf shape.name shape.fields.length)⟩

def required (fields : Fields σ) (name : String) (decode : σ → Decoded α) : Decoded α :=
  match fields.given.lookup name with
  | some value => decode value
  | none => .error (fields.missing name)

def withDefault (fields : Fields σ) (name : String) (default : α) (decode : σ → Decoded α) :
    Decoded α :=
  match fields.given.lookup name with
  | some value => decode value
  | none => .ok default

def optional [Source σ] (fields : Fields σ) (name : String) (decode : σ → Decoded α) :
    Decoded (Option α) :=
  match fields.given.lookup name with
  | none => .ok none
  | some value => do
      match ← Source.present value with
      | none => return none
      | some held => return some (← decode held)

end Fields

namespace Source

variable {σ α : Type} [Source σ]

def string : σ → Decoded String :=
  text .text

def listOf (decode : σ → Decoded α) (value : σ) : Decoded (List α) := do
  (← items value).mapM decode

def strings : σ → Decoded (List String) :=
  listOf string

def membersOf (decode : σ → Decoded α) (members : List (String × σ)) :
    Decoded (List (String × α)) :=
  members.mapM fun (key, value) => return (key, ← decode value)

def stringMap (value : σ) : Decoded (Dict String) := do
  return .ofList (← membersOf string (← members .map value))

/-- A record in an object together with members that are none of its fields: the fields, and the
other members, taken down for later. -/
def openRecord (shape : RecordShape) (value : σ) :
    Decoded (Fields σ × List (String × Content)) := do
  let (own, others) ← Fields.separate shape.fields (← members (.record shape.name) value)
  return (.named own, ← membersOf content others)

def choiceOf (choices : List (String × α)) (value : σ) : Decoded α := do
  let (name, held) ← choice (choices.map Prod.fst) value
  match choices.lookup name with
  | none => throw (.unknownChoice name (choices.map Prod.fst))
  | some meant =>
      match held with
      | none => return meant
      | some held =>
          nothing held
          return meant

end Source

end AdmissionPolicy
