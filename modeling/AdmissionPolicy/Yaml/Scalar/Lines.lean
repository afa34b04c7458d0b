import AdmissionPolicy.Yaml.Escape
import AdmissionPolicy.Yaml.Token.Basic

/-!
The texts of scalars: plain ones, quoted ones and blocks. A scalar may go over several lines; a
single line break between two words folds into a space, and of several ones the first is dropped.

Every reader takes a bound on the number of its steps, for which the length of the whole text is
enough.
-/

namespace AdmissionPolicy.Yaml

/-! ### Gaps between words -/

/-- What stands between two words of a scalar, the last character first: blanks before the first
line break, and line breaks. A line break that is escaped is not listed as the first one. -/
structure Gap where
  blanks : List Char
  broken : Bool
  first : Option Char
  further : List Char

namespace Gap

def start (escapedBreak : Bool) : Gap :=
  ⟨[], escapedBreak, none, []⟩

def addBlank (gap : Gap) (c : Char) : Gap :=
  if gap.broken then gap else { gap with blanks := c :: gap.blanks }

def addBreak (gap : Gap) (c : Char) : Gap :=
  if gap.broken then { gap with further := c :: gap.further }
  else { gap with broken := true, first := some c }

def text (gap : Gap) : List Char :=
  if !gap.broken then gap.blanks.reverse
  else
    match gap.first with
    | none => gap.further.reverse
    | some '\n' => if gap.further.isEmpty then [' '] else gap.further.reverse
    | some c => c :: gap.further.reverse

def read (indent : Nat) : Nat → Cursor → Gap → Option (Gap × Cursor)
  | 0, cursor, gap => some (gap, cursor)
  | fuel + 1, cursor, gap =>
      match cursor.rest with
      | [] => some (gap, cursor)
      | c :: _ =>
          if isBlank c then
            if gap.broken && cursor.column < indent && c == '\t' then none
            else read indent fuel (cursor.skip 1) (gap.addBlank c)
          else
            match cursor.lineBreak? with
            | some (sign, next) => read indent fuel next (gap.addBreak sign)
            | none => some (gap, cursor)

end Gap

/-! ### Plain scalars -/

def startsFlowSign : List Char → Bool
  | c :: _ => isFlowSign c || c == '?'
  | [] => false

def plainWord (inFlow : Bool) : List Char → Option (List Char)
  | [] => some []
  | ':' :: rest =>
      if inFlow && startsFlowSign rest then none
      else if startsGap rest then some []
      else (plainWord inFlow rest).map (':' :: ·)
  | c :: rest =>
      if isBlank c || isBreak c || (inFlow && isFlowSign c) then some []
      else (plainWord inFlow rest).map (c :: ·)

structure ScalarEnd where
  text : List Char
  cursor : Cursor
  newLine : Bool

def readPlain (inFlow : Bool) (indent : Nat) :
    Nat → Cursor → Gap → List Char → Option ScalarEnd
  | 0, _, _, _ => none
  | fuel + 1, cursor, gap, reversed =>
      if cursor.atDocumentMark || cursor.isAt '#' then
        some ⟨reversed.reverse, cursor, gap.broken⟩
      else do
        let word ← plainWord inFlow cursor.rest
        if word.isEmpty then return ⟨reversed.reverse, cursor, gap.broken⟩
        let cursor := cursor.skip word.length
        let reversed := word.reverse ++ gap.text.reverse ++ reversed
        if cursor.atEnd || !startsGap cursor.rest then return ⟨reversed.reverse, cursor, false⟩
        let (gap, cursor) ← Gap.read indent fuel cursor (.start false)
        if !inFlow && cursor.column < indent then return ⟨reversed.reverse, cursor, gap.broken⟩
        readPlain inFlow indent fuel cursor gap reversed

/-! ### Quoted scalars -/

def quotedWord (double : Bool) :
    Nat → Cursor → List Char → Option (List Char × Bool × Cursor)
  | 0, _, _ => none
  | fuel + 1, cursor, reversed =>
      match cursor.rest with
      | [] => some (reversed, false, cursor)
      | c :: rest =>
          if isBlank c || isBreak c then some (reversed, false, cursor)
          else if c == '\'' && !double then
            if rest.head? == some '\'' then quotedWord double fuel (cursor.skip 2) (c :: reversed)
            else some (reversed, false, cursor)
          else if c == '"' && double then some (reversed, false, cursor)
          else if c == '\\' && double then
            match (cursor.skip 1).lineBreak? with
            | some (_, next) => some (reversed, true, next)
            | none =>
                match escape? rest with
                | some (meant, count) =>
                    quotedWord double fuel (cursor.skip (count + 1)) (meant :: reversed)
                | none => none
          else quotedWord double fuel (cursor.skip 1) (c :: reversed)

def readQuoted (double : Bool) : Nat → Cursor → List Char → Option ScalarEnd
  | 0, _, _ => none
  | fuel + 1, cursor, reversed =>
      if cursor.atDocumentMark || cursor.atEnd then none
      else do
        let (reversed, escapedBreak, cursor) ← quotedWord double (fuel + 1) cursor reversed
        if cursor.isAt (if double then '"' else '\'') then
          return ⟨reversed.reverse, cursor.skip 1, false⟩
        let (gap, cursor) ← Gap.read 0 (fuel + 1) cursor (.start escapedBreak)
        readQuoted double fuel cursor (gap.text.reverse ++ reversed)

/-! ### Blocks -/

inductive Chomping
  | strip
  | clip
  | keep
  deriving DecidableEq, Repr

def chomping? : List Char → Option Chomping
  | '+' :: _ => some .keep
  | '-' :: _ => some .strip
  | _ => none

def digit? : List Char → Option Nat
  | c :: _ => if '0' ≤ c && c ≤ '9' then some (c.toNat - '0'.toNat) else none
  | [] => none

/-- Reads what stands behind the sign of a block: how its end is treated and by how much it is
indented, in any order, and over how many characters. An indentation of zero is none. -/
def blockHeader? (text : List Char) : Option (Chomping × Nat × Nat) :=
  match chomping? text, digit? text with
  | some chomping, _ =>
      match digit? (text.drop 1) with
      | some 0 => none
      | some indent => some (chomping, indent, 2)
      | none => some (chomping, 0, 1)
  | none, some 0 => none
  | none, some indent =>
      match chomping? (text.drop 1) with
      | some chomping => some (chomping, indent, 2)
      | none => some (.clip, indent, 1)
  | none, none => some (.clip, 0, 0)

/-- Reads empty lines and the indentation of the line behind them: the widest indentation, and the
line breaks. While the indentation is not known, which zero stands for, all spaces belong to it. -/
def readEmptyLines (indent : Nat) :
    Nat → Cursor → Nat → List Char → Option (Nat × List Char × Cursor)
  | 0, _, _, _ => none
  | fuel + 1, cursor, widest, reversed =>
      let spaces := (cursor.run (· == ' ')).length
      let inside := if indent == 0 then spaces else min spaces (indent - cursor.column)
      let cursor := cursor.skip inside
      let widest := max widest cursor.column
      if (indent == 0 || cursor.column < indent) && cursor.isAt '\t' then none
      else
        match cursor.lineBreak? with
        | some (sign, next) => readEmptyLines indent fuel next widest (sign :: reversed)
        | none => some (widest, reversed.reverse, cursor)

structure BlockLines where
  reversed : List Char
  lineBreak : List Char
  emptyLines : List Char
  /-- Whether the last line starts with a blank; such lines are not folded. -/
  blank : Bool

def BlockLines.gap (lines : BlockLines) (folds blank : Bool) : List Char :=
  if folds && lines.lineBreak == ['\n'] && !lines.blank && !blank then
    if lines.emptyLines.isEmpty then [' '] else lines.emptyLines
  else lines.lineBreak ++ lines.emptyLines

def readLines (folds : Bool) (indent : Nat) :
    Nat → Cursor → BlockLines → Option (BlockLines × Cursor)
  | 0, _, _ => none
  | fuel + 1, cursor, lines =>
      if cursor.column != indent || cursor.atEnd then some (lines, cursor)
      else do
        let blank := cursor.isAt ' ' || cursor.isAt '\t'
        let line := cursor.run fun c => !isBreak c
        let cursor := cursor.skip line.length
        let lineBreak := cursor.lineBreak?
        let next := cursor.skipLineBreak
        let (_, emptyLines, next) ← readEmptyLines indent (fuel + 1) next 0 []
        readLines folds indent fuel next {
          reversed := line.reverse ++ (lines.gap folds blank).reverse ++ lines.reversed
          lineBreak := (lineBreak.map Prod.fst).toList
          emptyLines, blank }

def readBlock (folds : Bool) (outer : Option Nat) (fuel : Nat) (cursor : Cursor) :
    Option ScalarEnd := do
  let (chomping, increment, count) ← blockHeader? cursor.rest
  let cursor ← (cursor.skip count).finishLine?
  let given := if increment == 0 then 0 else outer.getD 0 + increment
  let (widest, emptyLines, cursor) ← readEmptyLines given fuel cursor 0 []
  let least := (outer.map (· + 1)).getD 0
  let indent := if given == 0 then max widest (max least 1) else given
  let (lines, cursor) ← readLines folds indent fuel cursor ⟨[], [], emptyLines, false⟩
  let text := lines.reversed.reverse
  let closing :=
    match chomping with
    | .strip => []
    | .clip => lines.lineBreak
    | .keep => lines.lineBreak ++ lines.emptyLines
  return ⟨text ++ closing, cursor, true⟩

end AdmissionPolicy.Yaml
