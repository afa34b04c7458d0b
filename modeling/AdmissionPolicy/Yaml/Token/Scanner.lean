import AdmissionPolicy.Yaml.Scalar.Lines

/-!
The tokens of a YAML text.

Whether a value is a key is known only at the colon behind it. Until then the place of a possible
key is remembered, one for each level of brackets; it has to be followed by its colon on the same
line.
-/

namespace AdmissionPolicy.Yaml

structure PossibleKey where
  tokens : Nat
  index : Nat
  line : Nat
  column : Nat
  /-- At this column of a block only a key can stand. -/
  required : Bool

/-- A key and its colon stand on one line, not further apart than this. -/
def keyReach : Nat := 1024

def PossibleKey.reaches (key : PossibleKey) (cursor : Cursor) : Bool :=
  key.line == cursor.line && cursor.index ≤ key.index + keyReach

structure Scanner where
  cursor : Cursor
  /-- The tokens, the last one first, and their number. -/
  tokens : List Token
  count : Nat
  indents : List Nat
  keyAllowed : Bool
  possible : Option PossibleKey
  outer : List (Option PossibleKey)

namespace Scanner

def ofText (text : List Char) : Scanner :=
  ⟨.ofText text, [], 0, [], true, none, []⟩

def inFlow (scanner : Scanner) : Bool :=
  !scanner.outer.isEmpty

def push (scanner : Scanner) (token : Token) : Scanner :=
  { scanner with tokens := token :: scanner.tokens, count := scanner.count + 1 }

def insert (scanner : Scanner) (count : Nat) (token : Token) : Scanner :=
  { scanner with
    tokens := scanner.tokens.insertIdx (scanner.count - count) token
    count := scanner.count + 1 }

def skip (scanner : Scanner) (count : Nat) : Scanner :=
  { scanner with cursor := scanner.cursor.skip count }

def allowKey (scanner : Scanner) (allowed : Bool) : Scanner :=
  { scanner with keyAllowed := allowed }

def innerColumn (scanner : Scanner) : Nat :=
  match scanner.indents with
  | [] => 0
  | column :: _ => column + 1

/-! ### Blocks and keys -/

/-- Closes the blocks that start behind a column, or all of them. Inside of brackets indentation has
no meaning. -/
def unroll (scanner : Scanner) (column : Option Nat) : Scanner :=
  if scanner.inFlow then scanner
  else
    let closed := (scanner.indents.takeWhile fun indent => column.all (· < indent)).length
    { scanner with
      tokens := List.replicate closed .blockEnd ++ scanner.tokens
      count := scanner.count + closed
      indents := scanner.indents.drop closed }

/-- Opens a block at a column behind the column of the innermost one. Its token goes behind the
first `count` ones. -/
def roll (scanner : Scanner) (column count : Nat) (token : Token) : Scanner :=
  if scanner.inFlow || !(scanner.indents.head?.all (· < column)) then scanner
  else { scanner.insert count token with indents := column :: scanner.indents }

def rollHere (scanner : Scanner) (token : Token) : Scanner :=
  scanner.roll scanner.cursor.column scanner.count token

/-- Gives up the possible key of the innermost brackets, which must not be a required one. -/
def dropKey (scanner : Scanner) : Option Scanner :=
  if scanner.possible.any (·.required) then none else some { scanner with possible := none }

def saveKey (scanner : Scanner) : Option Scanner :=
  if !scanner.keyAllowed then some scanner
  else do
    let cursor := scanner.cursor
    let required := !scanner.inFlow && scanner.indents.head? == some cursor.column
    let scanner ← scanner.dropKey
    return {
      scanner with
      possible := some ⟨scanner.count, cursor.index, cursor.line, cursor.column, required⟩ }

/-! ### Directives, anchors and tags -/

def versionNumber? (text : List Char) : Option (Nat × Nat) :=
  let digits := text.takeWhile Char.isDigit
  if 9 < digits.length then none else (Digits.number? 10 digits).map (·, digits.length)

def versionToken? (cursor : Cursor) : Option (Token × Cursor) := do
  let cursor := cursor.skipBlanks
  let (major, count) ← versionNumber? cursor.rest
  let cursor := cursor.skip count
  if !cursor.isAt '.' then none
  else
    let cursor := cursor.skip 1
    let (minor, count) ← versionNumber? cursor.rest
    return (.version major minor, cursor.skip count)

def tagHandle? (cursor : Cursor) : Option (List Char × Cursor) :=
  if !cursor.isAt '!' then none
  else
    let name := (cursor.skip 1).run isNameChar
    let cursor := cursor.skip (name.length + 1)
    if cursor.isAt '!' then some ('!' :: name ++ ['!'], cursor.skip 1)
    else some ('!' :: name, cursor)

def isTagChar (verbatim : Bool) (c : Char) : Bool :=
  isNameChar c || ";/?:@&=+$.!~*'()".contains c || (verbatim && (c == ',' || c == '[' || c == ']'))

def tagText (verbatim : Bool) : Nat → Cursor → Option (List Char × Cursor)
  | 0, _ => none
  | fuel + 1, cursor =>
      match cursor.rest with
      | [] => some ([], cursor)
      | c :: _ =>
          if c == '%' then do
            let (meant, count) ← percentChar? cursor.rest
            let (text, cursor) ← tagText verbatim fuel (cursor.skip count)
            return (meant :: text, cursor)
          else if isTagChar verbatim c then do
            let (text, cursor) ← tagText verbatim fuel (cursor.skip 1)
            return (c :: text, cursor)
          else some ([], cursor)

def tagHandleToken? (fuel : Nat) (cursor : Cursor) : Option (Token × Cursor) := do
  let (handle, cursor) ← tagHandle? cursor.skipBlanks
  if handle != ['!'] && handle.getLast? != some '!' then none
  else if !(cursor.rest.head?.any isBlank) then none
  else
    let (text, cursor) ← tagText true fuel cursor.skipBlanks
    if text.isEmpty || !startsGap cursor.rest then none
    else return (.tagHandle (String.ofList handle) (String.ofList text), cursor)

def directive? (fuel : Nat) (cursor : Cursor) : Option (Token × Cursor) := do
  let name := cursor.run isNameChar
  let cursor := cursor.skip name.length
  if !startsGap cursor.rest then none
  else
    let (token, cursor) ←
      if name == "YAML".toList then versionToken? cursor
      else if name == "TAG".toList then tagHandleToken? fuel cursor
      else none
    return (token, ← cursor.finishLine?)

def endsAnchor : List Char → Bool
  | [] => true
  | c :: _ => isBlank c || isBreak c || "?:,]\x7d%@`".contains c

def anchorName? (cursor : Cursor) : Option (String × Cursor) :=
  let name := cursor.run isNameChar
  let cursor := cursor.skip name.length
  if name.isEmpty || !endsAnchor cursor.rest then none else some (String.ofList name, cursor)

def tag? (fuel : Nat) (cursor : Cursor) : Option (String × String × Cursor) := do
  if cursor.rest.take 2 == ['!', '<'] then
    let (text, cursor) ← tagText true fuel (cursor.skip 2)
    if text.isEmpty || !cursor.isAt '>' then none
    else return ("", String.ofList text, cursor.skip 1)
  else
    let (handle, cursor) ← tagHandle? cursor
    let (text, cursor) ← tagText false fuel cursor
    if 1 < handle.length && handle.getLast? == some '!' then
      if text.isEmpty then none
      else return (String.ofList handle, String.ofList text, cursor)
    else
      let suffix := handle.drop 1 ++ text
      if suffix.isEmpty then return ("", "!", cursor)
      else return ("!", String.ofList suffix, cursor)

/-! ### Steps -/

/-- Passes over blanks, comments and line breaks. Tabs count as blanks where no key can start. -/
def skipToToken : Nat → Scanner → Scanner
  | 0, scanner => scanner
  | fuel + 1, scanner =>
      let cursor := scanner.cursor
      let cursor := if cursor.index == 0 && cursor.isAt '\ufeff' then cursor.skip 1 else cursor
      let tabs := scanner.inFlow || !scanner.keyAllowed
      let cursor := cursor.skipWhile fun c => c == ' ' || (tabs && c == '\t')
      let cursor := if cursor.isAt '#' then cursor.skipLine else cursor
      match cursor.lineBreak? with
      | some (_, next) =>
          skipToToken fuel {
            scanner with cursor := next, keyAllowed := scanner.keyAllowed || !scanner.inFlow }
      | none => { scanner with cursor }

def startOver (scanner : Scanner) : Option Scanner :=
  return (← (scanner.unroll none).dropKey).allowKey false

def openFlow (scanner : Scanner) (token : Token) : Option Scanner := do
  let scanner ← scanner.saveKey
  return { scanner.push token with
    cursor := scanner.cursor.skip 1
    keyAllowed := true
    possible := none
    outer := scanner.possible :: scanner.outer }

def closeFlow (scanner : Scanner) (token : Token) : Option Scanner := do
  let scanner ← scanner.dropKey
  return { scanner.push token with
    cursor := scanner.cursor.skip 1
    keyAllowed := false
    possible := (scanner.outer.head?.getD scanner.possible)
    outer := scanner.outer.drop 1 }

def flowEntry (scanner : Scanner) : Option Scanner := do
  return ((← scanner.dropKey).allowKey true).skip 1 |>.push .comma

/-- A hyphen before an item. Inside of brackets it is left to be refused later. -/
def blockItem (scanner : Scanner) : Option Scanner := do
  if !scanner.inFlow && !scanner.keyAllowed then none
  else return (((← (scanner.rollHere .blockListStart).dropKey).allowKey true).skip 1).push .item

def explicitKey (scanner : Scanner) : Option Scanner := do
  if !scanner.inFlow && !scanner.keyAllowed then none
  else
    let allowed := !scanner.inFlow
    return (((← (scanner.rollHere .blockMapStart).dropKey).allowKey allowed).skip 1).push .key

def valueSign (scanner : Scanner) : Option Scanner :=
  match scanner.possible.filter (·.reaches scanner.cursor) with
  | some key =>
      let scanner := (scanner.insert key.tokens .key).roll key.column key.tokens .blockMapStart
      some (({ scanner with keyAllowed := false, possible := none }.skip 1).push .value)
  | none =>
      if scanner.possible.any (·.required) || (!scanner.inFlow && !scanner.keyAllowed) then none
      else
        let scanner := { scanner.rollHere .blockMapStart with
          keyAllowed := !scanner.inFlow, possible := none }
        some ((scanner.skip 1).push .value)

def addScalar (scanner : Scanner) (style : Style) (scalar : ScalarEnd) : Scanner :=
  { scanner.push (.scalar style (String.ofList scalar.text)) with
    cursor := scalar.cursor, keyAllowed := scalar.newLine }

def quoted (fuel : Nat) (scanner : Scanner) (style : Style) : Option Scanner := do
  let scanner ← scanner.saveKey
  let double := style == .doubleQuoted
  return scanner.addScalar style (← readQuoted double fuel (scanner.cursor.skip 1) [])

def plain (fuel : Nat) (scanner : Scanner) : Option Scanner := do
  let scanner ← scanner.saveKey
  return scanner.addScalar .plain
    (← readPlain scanner.inFlow scanner.innerColumn fuel scanner.cursor (.start false) [])

def block (fuel : Nat) (scanner : Scanner) (style : Style) : Option Scanner := do
  let scanner ← scanner.dropKey
  return scanner.addScalar style
    (← readBlock (style == .folded) scanner.indents.head? fuel (scanner.cursor.skip 1))

def anchorSign (scanner : Scanner) (token : String → Token) : Option Scanner := do
  let scanner ← scanner.saveKey
  let (name, cursor) ← anchorName? (scanner.cursor.skip 1)
  return { scanner.push (token name) with cursor, keyAllowed := false }

def tagSign (fuel : Nat) (scanner : Scanner) : Option Scanner := do
  let scanner ← scanner.saveKey
  let (handle, suffix, cursor) ← tag? fuel scanner.cursor
  if startsGap cursor.rest || (scanner.inFlow && cursor.isAt ',') then
    return { scanner.push (.tag handle suffix) with cursor, keyAllowed := false }
  else none

def isIndicator (c : Char) : Bool :=
  "-?:,[]\x7b\x7d#&*!|>'\"%@`".contains c

def startsPlain (inFlow : Bool) : List Char → Bool
  | [] => false
  | c :: rest =>
      !(isBlank c || isBreak c || isIndicator c)
        || (c == '-' && !(rest.head?.any isBlank))
        || (!inFlow && (c == '?' || c == ':') && !startsGap rest)

def token (fuel : Nat) (scanner : Scanner) (c : Char) : Option Scanner :=
  let cursor := scanner.cursor
  let inFlow := scanner.inFlow
  let alone := startsGap (cursor.rest.drop 1)
  if cursor.column == 0 && c == '%' then do
    let scanner ← scanner.startOver
    let (token, cursor) ← directive? fuel (cursor.skip 1)
    return { scanner.push token with cursor }
  else if cursor.atMark ['-', '-', '-'] then do
    return ((← scanner.startOver).skip 3).push .documentStart
  else if cursor.atMark ['.', '.', '.'] then do
    return ((← scanner.startOver).skip 3).push .documentEnd
  else if c == '[' then scanner.openFlow .flowListStart
  else if c == '\x7b' then scanner.openFlow .flowMapStart
  else if c == ']' then scanner.closeFlow .flowListEnd
  else if c == '\x7d' then scanner.closeFlow .flowMapEnd
  else if c == ',' then scanner.flowEntry
  else if c == '-' && alone then scanner.blockItem
  else if c == '?' && (inFlow || alone) then scanner.explicitKey
  else if c == ':' && (inFlow || alone) then scanner.valueSign
  else if c == '*' then scanner.anchorSign .reference
  else if c == '&' then scanner.anchorSign .anchor
  else if c == '!' then scanner.tagSign fuel
  else if c == '|' && !inFlow then scanner.block fuel .literal
  else if c == '>' && !inFlow then scanner.block fuel .folded
  else if c == '\'' then scanner.quoted fuel .singleQuoted
  else if c == '"' then scanner.quoted fuel .doubleQuoted
  else if startsPlain inFlow cursor.rest then scanner.plain fuel
  else none

def run (limit : Nat) : Nat → Scanner → Option (List Token)
  | 0, _ => none
  | fuel + 1, scanner =>
      let scanner := skipToToken limit scanner
      let scanner := scanner.unroll (some scanner.cursor.column)
      match scanner.cursor.rest with
      | [] => do
          let scanner ← (scanner.unroll none).dropKey
          return (scanner.push .textEnd).tokens.reverse
      | c :: _ => do run limit fuel (← token limit scanner c)

end Scanner

def tokens? (text : String) : Option (List Token) :=
  let text := text.toList
  let limit := text.length + 2
  if text.all isAllowed then Scanner.run limit limit (.ofText text) else none

end AdmissionPolicy.Yaml
