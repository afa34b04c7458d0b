import AdmissionPolicy.Json.Canonical
import AdmissionPolicy.Json.Literal

/-!
A JSON text as far as it could be read: a tree of values in which the faults stand at their places.

Whether a fault matters, and how it is reported, depends on who looks at the place. A reader that
wants the value reports it; a reader that passes over the value only checks its form, and so does
not notice half a surrogate pair, octets that are not UTF-8, or brackets nested too deeply.
-/

namespace AdmissionPolicy.Json

inductive Draft
  | null
  | bool (value : Bool)
  | number (value : Number)
  | text (value : String)
  | valueless (error : ReadError)
  /-- Too many brackets are open here. The content can only be passed over. -/
  | tooDeep (content : Draft)
  /-- Items up to the closing bracket, or up to a fault behind them. -/
  | list (items : List Draft) (fault : Option Fault)
  | object (members : List (Except ReadError String × Draft)) (fault : Option Fault)
  | broken (fault : Fault)

namespace Draft

def depthLimit : Nat := 127

def isBlank (byte : UInt8) : Bool :=
  byte = 0x20 || byte = 0x0a || byte = 0x0d || byte = 0x09

structure Read (α : Type) where
  result : α
  rest : Option (List UInt8)

def readWord (value : Draft) (letters : List Char) (text : List UInt8) : Read Draft :=
  match letters, text with
  | [], rest => ⟨value, some rest⟩
  | _ :: _, [] => ⟨.broken (.same .endOfValue), none⟩
  | letter :: letters, byte :: rest =>
      if byte = octet letter then readWord value letters rest
      else ⟨.broken (.same .expectedWord), none⟩

def ofScan {α : Type} (node : α → Draft) : Scan α → Read Draft
  | .closed (.ok value) rest => ⟨node value, some rest⟩
  | .closed (.error error) rest => ⟨.valueless error, some rest⟩
  | .broken fault => ⟨.broken fault, none⟩

def limited (depth : Nat) (content : Draft) : Draft :=
  if depth < depthLimit then content else .tooDeep content

mutual

/-- Reads a value inside `depth` open brackets. The fuel is more than the steps the text allows. -/
def readValue (fuel depth : Nat) (text : List UInt8) : Read Draft :=
  match fuel with
  | 0 => ⟨.broken (.same .endOfValue), none⟩
  | fuel + 1 =>
      match text.dropWhile isBlank with
      | [] => ⟨.broken (.same .endOfValue), none⟩
      | byte :: rest =>
          if byte = octet 'n' then readWord .null ['u', 'l', 'l'] rest
          else if byte = octet 't' then readWord (.bool true) ['r', 'u', 'e'] rest
          else if byte = octet 'f' then readWord (.bool false) ['a', 'l', 's', 'e'] rest
          else if byte = octet '"' then ofScan .text (scanText (.ok []) rest)
          else if byte = octet '-' then ofScan .number (scanNumber true rest)
          else if isDigit byte then ofScan .number (scanNumber false (byte :: rest))
          else if byte = octet '[' then
            let ⟨(items, fault), rest⟩ := readItems fuel (depth + 1) true rest
            ⟨limited depth (.list items fault), rest⟩
          else if byte = octet '{' then
            let ⟨(members, fault), rest⟩ := readMembers fuel (depth + 1) true rest
            ⟨limited depth (.object members fault), rest⟩
          else ⟨.broken (.same .expectedValue), none⟩

def readItems (fuel depth : Nat) (first : Bool) (text : List UInt8) :
    Read (List Draft × Option Fault) :=
  match fuel with
  | 0 => ⟨([], some (.same .endOfList)), none⟩
  | fuel + 1 =>
      match text.dropWhile isBlank with
      | [] => ⟨([], some (.same .endOfList)), none⟩
      | byte :: rest =>
          if byte = octet ']' then ⟨([], none), some rest⟩
          else if first then readItem fuel depth (byte :: rest)
          else if byte ≠ octet ',' then ⟨([], some (.same .expectedCommaOrBracket)), none⟩
          else
            match rest.dropWhile isBlank with
            | [] => ⟨([], some (.same .endOfValue)), none⟩
            | byte :: rest =>
                if byte = octet ']' then ⟨([], some ⟨.trailingComma, .expectedValue⟩), none⟩
                else readItem fuel depth (byte :: rest)

def readItem (fuel depth : Nat) (text : List UInt8) : Read (List Draft × Option Fault) :=
  match fuel with
  | 0 => ⟨([], some (.same .endOfList)), none⟩
  | fuel + 1 =>
      match readValue fuel depth text with
      | ⟨item, none⟩ => ⟨([item], none), none⟩
      | ⟨item, some rest⟩ =>
          let ⟨(items, fault), rest⟩ := readItems fuel depth false rest
          ⟨(item :: items, fault), rest⟩

def readMembers (fuel depth : Nat) (first : Bool) (text : List UInt8) :
    Read (List (Except ReadError String × Draft) × Option Fault) :=
  match fuel with
  | 0 => ⟨([], some (.same .endOfObject)), none⟩
  | fuel + 1 =>
      match text.dropWhile isBlank with
      | [] => ⟨([], some (.same .endOfObject)), none⟩
      | byte :: rest =>
          if byte = octet '}' then ⟨([], none), some rest⟩
          else if first then
            if byte = octet '"' then readMember fuel depth rest
            else ⟨([], some (.same .keyIsNotText)), none⟩
          else if byte ≠ octet ',' then ⟨([], some (.same .expectedCommaOrBrace)), none⟩
          else
            match rest.dropWhile isBlank with
            | [] => ⟨([], some ⟨.endOfValue, .endOfObject⟩), none⟩
            | byte :: rest =>
                if byte = octet '"' then readMember fuel depth rest
                else if byte = octet '}' then
                  ⟨([], some ⟨.trailingComma, .keyIsNotText⟩), none⟩
                else ⟨([], some (.same .keyIsNotText)), none⟩

def readMember (fuel depth : Nat) (text : List UInt8) :
    Read (List (Except ReadError String × Draft) × Option Fault) :=
  match fuel with
  | 0 => ⟨([], some (.same .endOfObject)), none⟩
  | fuel + 1 =>
      match scanText (.ok []) text with
      | .broken fault => ⟨([], some fault), none⟩
      | .closed key rest =>
          match rest.dropWhile isBlank with
          | [] => ⟨([], some (.same .endOfObject)), none⟩
          | byte :: rest =>
              if byte ≠ octet ':' then ⟨([], some (.same .expectedColon)), none⟩
              else
                match readValue fuel depth rest with
                | ⟨value, none⟩ => ⟨([(key, value)], none), none⟩
                | ⟨value, some rest⟩ =>
                    let ⟨(members, fault), rest⟩ := readMembers fuel depth false rest
                    ⟨((key, value) :: members, fault), rest⟩

end

def skipFault : Option Fault → Except ReadError Unit
  | none => .ok ()
  | some fault => .error fault.skipping

mutual

def skip : Draft → Except ReadError Unit
  | .list items fault => do
      skipItems items
      skipFault fault
  | .object members fault => do
      skipMembers members
      skipFault fault
  | .tooDeep content => skip content
  | .broken fault => .error fault.skipping
  | _ => .ok ()

def skipItems : List Draft → Except ReadError Unit
  | [] => .ok ()
  | item :: rest => do
      skip item
      skipItems rest

def skipMembers : List (Except ReadError String × Draft) → Except ReadError Unit
  | [] => .ok ()
  | (_, value) :: rest => do
      skip value
      skipMembers rest

end

def wantFault : Option Fault → Except ReadError Unit
  | none => .ok ()
  | some fault => .error fault.reading

mutual

def toJson : Draft → Except ReadError Json
  | .null => .ok .null
  | .bool value => .ok (.bool value)
  | .number value => .ok (.number value)
  | .text value => .ok (.text value)
  | .valueless error => .error error
  | .tooDeep _ => .error .tooDeep
  | .broken fault => .error fault.reading
  | .list items fault => do
      let items ← itemsToJson items
      wantFault fault
      return .list items
  | .object members fault => do
      let members ← membersToJson members
      wantFault fault
      return .object members

def itemsToJson : List Draft → Except ReadError (List Json)
  | [] => .ok []
  | item :: rest => do
      let item ← toJson item
      let rest ← itemsToJson rest
      return item :: rest

def membersToJson : List (Except ReadError String × Draft) →
    Except ReadError (List (String × Json))
  | [] => .ok []
  | (key, value) :: rest => do
      let key ← key
      let value ← toJson value
      let rest ← membersToJson rest
      return (key, value) :: rest

end

/-- Reads a whole text: the tree of its first value, and whether anything but blanks follows. -/
def ofBytes (text : List UInt8) : Draft × Bool :=
  match readValue (3 * text.length + 3) 0 text with
  | ⟨draft, none⟩ => (draft, false)
  | ⟨draft, some rest⟩ => (draft, !(rest.dropWhile isBlank).isEmpty)

end Draft

def parse (text : String) : Except ReadError Json := do
  let (draft, more) := Draft.ofBytes text.toUTF8.toList
  let value ← draft.toJson
  if more then .error .trailingCharacters else .ok value.canonical

end AdmissionPolicy.Json
