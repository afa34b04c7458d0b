import AdmissionPolicy.Codec.Policy
import AdmissionPolicy.Json.Printer
import AdmissionPolicy.Yaml.Printer
import AdmissionPolicy.Yaml.Node.View

/-!
Policies as texts, in JSON and in YAML.
-/

namespace AdmissionPolicy

inductive ParseError
  | json (detail : String)
  | yaml (detail : String)
  | serialization (detail : String)
  deriving DecidableEq, Repr

def ParseError.message : ParseError → String
  | json detail => "JSON parse error: " ++ detail
  | yaml detail => "YAML parse error: " ++ detail
  | serialization detail => "Serialization error: " ++ detail

namespace Policy

def ofJsonBytes (octets : List UInt8) : Except ParseError Policy :=
  let (draft, more) := Json.Draft.ofBytes octets
  let decoded : Decoded Policy := do
    let policy ← decode draft
    if more then throw (.json .trailingCharacters)
    return policy
  decoded.mapError fun error => ParseError.json error.message

def ofJsonText (text : String) : Except ParseError Policy :=
  ofJsonBytes text.toUTF8.toList

def toJsonText (policy : Policy) : String :=
  policy.encode.pretty

def ofYamlText (text : String) : Except ParseError Policy :=
  let decoded : Decoded Policy :=
    match Yaml.parse? text with
    | some document => decode document.view
    | none => .error .yaml
  decoded.mapError fun error => ParseError.yaml error.message

def toYamlText (policy : Policy) : String :=
  Yaml.documentText policy.members

end Policy

end AdmissionPolicy
