/-!
Characters of YAML texts, and places in such a text.
-/

namespace AdmissionPolicy.Yaml

/-- Line breaks that are read as a line feed; the two separators stand for themselves. -/
def isSeparator (c : Char) : Bool :=
  c == '\u2028' || c == '\u2029'

def isBreak (c : Char) : Bool :=
  c == '\n' || c == '\r' || c == '\u0085' || isSeparator c

def isBlank (c : Char) : Bool :=
  c == ' ' || c == '\t'

def startsGap : List Char → Bool
  | [] => true
  | c :: _ => isBlank c || isBreak c

def endsLine : List Char → Bool
  | [] => true
  | c :: _ => isBreak c

def isNameChar (c : Char) : Bool :=
  c.isAlphanum || c == '_' || c == '-'

def isFlowSign (c : Char) : Bool :=
  c == ',' || c == '[' || c == ']' || c == '\x7b' || c == '\x7d'

def isAllowed (c : Char) : Bool :=
  let point := c.toNat
  point == 0x09 || point == 0x0a || point == 0x0d || (0x20 ≤ point && point ≤ 0x7e)
    || point == 0x85 || (0xa0 ≤ point && point ≤ 0xfffd) || 0x10000 ≤ point

structure Cursor where
  rest : List Char
  index : Nat
  line : Nat
  column : Nat

namespace Cursor

def ofText (text : List Char) : Cursor :=
  ⟨text, 0, 0, 0⟩

def skip (cursor : Cursor) (count : Nat) : Cursor :=
  ⟨cursor.rest.drop count, cursor.index + count, cursor.line, cursor.column + count⟩

def run (cursor : Cursor) (kind : Char → Bool) : List Char :=
  cursor.rest.takeWhile kind

def skipWhile (cursor : Cursor) (kind : Char → Bool) : Cursor :=
  cursor.skip (cursor.run kind).length

def lineBreak? (cursor : Cursor) : Option (Char × Cursor) :=
  match cursor.rest with
  | '\r' :: '\n' :: rest => some ('\n', ⟨rest, cursor.index + 2, cursor.line + 1, 0⟩)
  | c :: rest =>
      if isBreak c then
        some (if isSeparator c then c else '\n', ⟨rest, cursor.index + 1, cursor.line + 1, 0⟩)
      else none
  | [] => none

def skipLineBreak (cursor : Cursor) : Cursor :=
  match cursor.lineBreak? with
  | some (_, next) => next
  | none => cursor

def skipLine (cursor : Cursor) : Cursor :=
  cursor.skipWhile fun c => !isBreak c

def skipBlanks (cursor : Cursor) : Cursor :=
  cursor.skipWhile isBlank

def isAt (cursor : Cursor) (c : Char) : Bool :=
  cursor.rest.head? == some c

def atEnd (cursor : Cursor) : Bool :=
  cursor.rest.isEmpty

/-- Whether a line starts here with a mark of three characters that stands alone. -/
def atMark (cursor : Cursor) (mark : List Char) : Bool :=
  cursor.column == 0 && mark.isPrefixOf cursor.rest && startsGap (cursor.rest.drop 3)

def atDocumentMark (cursor : Cursor) : Bool :=
  cursor.atMark ['-', '-', '-'] || cursor.atMark ['.', '.', '.']

def finishLine? (cursor : Cursor) : Option Cursor :=
  let cursor := cursor.skipBlanks
  let cursor := if cursor.isAt '#' then cursor.skipLine else cursor
  if endsLine cursor.rest then some cursor.skipLineBreak else none

end Cursor

end AdmissionPolicy.Yaml
