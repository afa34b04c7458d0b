/-!
Tokens of YAML texts. Blocks have tokens where they start and end, although the text shows them by
indentation only.
-/

namespace AdmissionPolicy.Yaml

inductive Style
  | plain
  | singleQuoted
  | doubleQuoted
  | literal
  | folded
  deriving DecidableEq, Repr

inductive Token
  | textEnd
  | version (major minor : Nat)
  /-- From here on, tags with the handle start with the given text. -/
  | tagHandle (handle start : String)
  | documentStart
  | documentEnd
  | blockListStart
  | blockMapStart
  | blockEnd
  | flowListStart
  | flowListEnd
  | flowMapStart
  | flowMapEnd
  | item
  | comma
  | key
  | value
  | reference (name : String)
  | anchor (name : String)
  | tag (handle suffix : String)
  | scalar (style : Style) (text : String)
  deriving DecidableEq, Repr

end AdmissionPolicy.Yaml
