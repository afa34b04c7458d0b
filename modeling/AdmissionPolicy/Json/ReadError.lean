/-!
Why a text is not a JSON document.
-/

namespace AdmissionPolicy.Json

inductive ReadError
  | endOfValue
  | endOfObject
  | endOfList
  | endOfText
  | expectedValue
  | expectedWord
  | expectedColon
  | expectedCommaOrBrace
  | expectedCommaOrBracket
  | keyIsNotText
  | trailingComma
  | trailingCharacters
  | invalidNumber
  | numberOutOfRange
  | invalidEscape
  | unfinishedPair
  | loneSurrogate
  | invalidUnicode
  | controlCharacter
  | tooDeep
  deriving DecidableEq, Repr

def ReadError.message : ReadError → String
  | .endOfValue => "EOF while parsing a value"
  | .endOfObject => "EOF while parsing an object"
  | .endOfList => "EOF while parsing a list"
  | .endOfText => "EOF while parsing a string"
  | .expectedValue => "expected value"
  | .expectedWord => "expected ident"
  | .expectedColon => "expected `:`"
  | .expectedCommaOrBrace => "expected `,` or `\x7d`"
  | .expectedCommaOrBracket => "expected `,` or `]`"
  | .keyIsNotText => "key must be a string"
  | .trailingComma => "trailing comma"
  | .trailingCharacters => "trailing characters"
  | .invalidNumber => "invalid number"
  | .numberOutOfRange => "number out of range"
  | .invalidEscape => "invalid escape"
  | .unfinishedPair => "unexpected end of hex escape"
  | .loneSurrogate => "lone leading surrogate in hex escape"
  | .invalidUnicode => "invalid unicode code point"
  | .controlCharacter => "control character (\\u0000-\\u001F) found while parsing a string"
  | .tooDeep => "recursion limit exceeded"

/-- A place where a text stops being JSON: the error for a reader that wants the value there, and
the error for a reader that passes over it. -/
structure Fault where
  reading : ReadError
  skipping : ReadError
  deriving DecidableEq, Repr

def Fault.same (error : ReadError) : Fault := ⟨error, error⟩

end AdmissionPolicy.Json
