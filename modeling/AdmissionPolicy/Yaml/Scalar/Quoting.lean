import AdmissionPolicy.Yaml.Escape
import AdmissionPolicy.Yaml.Scalar.Value

/-!
How the text of a scalar is written: plain if it reads back as the same text, in single quotes if it
has no characters that need an escape, in double quotes otherwise, and as a literal block if it has
line breaks.
-/

namespace AdmissionPolicy.Yaml

def isPrintable (c : Char) : Bool :=
  let point := c.toNat
  point == 0x0a || (0x20 ≤ point && point ≤ 0x7e)
    || (0xa0 ≤ point && point ≤ 0xfffd && point != 0xfeff) || 0x10000 ≤ point

def isLeadingSign (c : Char) : Bool :=
  "#,[]\x7b\x7d&*!|>'\"%@`".contains c

def startsMisleading : List Char → Bool
  | [] => false
  | c :: rest => isLeadingSign c || ((c == '?' || c == ':' || c == '-') && startsGap rest)

/-- Whether a text has the colon of a key or the start of a comment; the flag says whether a gap
went before. -/
def goesOnMisleading (afterGap : Bool) : List Char → Bool
  | [] => false
  | c :: rest =>
      (c == ':' && startsGap rest) || (c == '#' && afterGap)
        || goesOnMisleading (isBlank c || isBreak c) rest

def startsLikeMark (text : List Char) : Bool :=
  ['-', '-', '-'].isPrefixOf text || ['.', '.', '.'].isPrefixOf text

def isMisleading (text : List Char) : Bool :=
  startsLikeMark text || startsMisleading text
    || match text with
      | [] => false
      | c :: rest => goesOnMisleading (isBlank c || isBreak c) rest

def hasPair (first second : Char → Bool) : List Char → Bool
  | a :: b :: rest => (first a && second b) || hasPair first second (b :: rest)
  | _ => false

def isSpace (c : Char) : Bool := c == ' '

/-- Characters that only an escape can write, or a space that a line break would swallow. -/
def needsEscape (text : List Char) : Bool :=
  text.any (fun c => !isPrintable c) || hasPair isSpace isBreak text

def hasAtEdge (kind : Char → Bool) (text : List Char) : Bool :=
  text.head?.any kind || text.getLast?.any kind

def allowsPlain (text : List Char) : Bool :=
  !needsEscape text && !text.any isBreak && !hasAtEdge isSpace text && !isMisleading text

def allowsSingleQuotes (text : List Char) : Bool :=
  !needsEscape text && !hasPair isBreak isSpace text

def allowsLiteral (text : List Char) : Bool :=
  !text.isEmpty && !needsEscape text && !(text.getLast?.any isSpace)

def looksLikeText (text : String) : Bool :=
  match plainContent text with
  | .ok (.text _) => !isPaddedNumber text.toList
  | _ => false

/-- A key of at most so many octets, on one line, is written without a question mark. -/
def simpleKeyLength : Nat := 128

def isSimpleKey (key : String) : Bool :=
  !key.toList.any isBreak && key.utf8ByteSize ≤ simpleKeyLength

def styleOf (text : String) : Style :=
  let chars := text.toList
  if chars.contains '\n' then (if allowsLiteral chars then .literal else .doubleQuoted)
  else if looksLikeText text && allowsPlain chars then .plain
  else if allowsSingleQuotes chars then .singleQuoted
  else .doubleQuoted

/-! ### The styles -/

def spaces (count : Nat) : List Char :=
  List.replicate count ' '

/-- The character in single quotes; quotes are doubled. Lines behind a line break are indented. -/
def singleQuotedFrom (indent : Nat) (newLine : Bool) : List Char → List Char
  | [] => if newLine then spaces indent else []
  | c :: rest =>
      if isBreak c then c :: singleQuotedFrom indent true rest
      else
        (if newLine then spaces indent else []) ++ (if c == '\'' then [c, c] else [c])
          ++ singleQuotedFrom indent false rest

def singleQuoted (indent : Nat) (text : List Char) : List Char :=
  '\'' :: singleQuotedFrom indent false text ++ ['\'']

def hexDigits (count value : Nat) : List Char :=
  let digits := (Nat.toDigits 16 value).map Char.toUpper
  List.replicate (count - digits.length) '0' ++ digits

def doubleQuotedChar (c : Char) : List Char :=
  if isPrintable c && !isBreak c && c != '"' && c != '\\' then [c]
  else
    match letterEscapes.find? (·.2 == c) with
    | some (letter, _) => ['\\', letter]
    | none =>
        let point := c.toNat
        if point ≤ 0xff then '\\' :: 'x' :: hexDigits 2 point
        else if point ≤ 0xffff then '\\' :: 'u' :: hexDigits 4 point
        else '\\' :: 'U' :: hexDigits 8 point

def doubleQuoted (text : List Char) : List Char :=
  '"' :: text.flatMap doubleQuotedChar ++ ['"']

/-- What stands behind the sign of a literal block: its indentation if its first line does not show
it, and how the line breaks at its end are treated. -/
def literalHeader (text : List Char) : List Char :=
  let indentation := if text.head?.any (fun c => isSpace c || isBreak c) then ['2'] else []
  let chomping :=
    match text.reverse with
    | last :: before =>
        if !isBreak last then ['-']
        else if before.head?.all isBreak then ['+']
        else []
    | [] => ['-']
  indentation ++ chomping

def literalLines (indent : Nat) (newLine : Bool) : List Char → List Char
  | [] => []
  | c :: rest =>
      if isBreak c then c :: literalLines indent true rest
      else (if newLine then spaces indent else []) ++ c :: literalLines indent false rest

def literal (indent : Nat) (text : List Char) : List Char :=
  '|' :: literalHeader text ++ '\n' :: literalLines indent true text

def scalarText (indent : Nat) (text : String) : String :=
  let chars := text.toList
  match styleOf text with
  | .plain => text
  | .singleQuoted => String.ofList (singleQuoted indent chars)
  | .literal | .folded => String.ofList (literal indent chars)
  | .doubleQuoted => String.ofList (doubleQuoted chars)

end AdmissionPolicy.Yaml
