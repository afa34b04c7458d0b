/-!
Glob patterns over characters: `?` for one character, `*` for a run of them, `**` for whole path
components, and brackets for sets of characters. A text that breaks these rules does not compile.
-/

namespace AdmissionPolicy

inductive CharRange
  | single (c : Char)
  | range (first last : Char)
  deriving DecidableEq, Repr

def CharRange.contains : CharRange → Char → Bool
  | single c, x => c == x
  | range first last, x => first ≤ x && x ≤ last

namespace Glob

inductive One
  | char (c : Char)
  | anyChar
  | oneOf (ranges : List CharRange)
  | noneOf (ranges : List CharRange)
  deriving DecidableEq, Repr

def One.accepts : One → Char → Bool
  | char c, x => c == x
  | anyChar, _ => true
  | oneOf ranges, x => ranges.any (·.contains x)
  | noneOf ranges, x => !ranges.any (·.contains x)

inductive Token
  | one (token : One)
  | anyRun
  /-- Nothing, or a run of characters up to a path separator or to the end. -/
  | components
  deriving DecidableEq, Repr

inductive CompileError
  | tooManyStars (position : Nat)
  | partialComponent (position : Nat)
  | unclosedBracket (position : Nat)
  deriving DecidableEq, Repr

def CompileError.message (error : CompileError) : String :=
  let (position, reason) :=
    match error with
    | .tooManyStars position =>
        (position, "wildcards are either regular `*` or recursive `**`")
    | .partialComponent position =>
        (position, "recursive wildcards must form a single path component")
    | .unclosedBracket position => (position, "invalid range pattern")
  s!"Pattern syntax error near position {position}: {reason}"

def isSeparator (c : Char) : Bool := c == '/'

def charRanges : List Char → List CharRange
  | first :: '-' :: last :: rest => .range first last :: charRanges rest
  | c :: rest => .single c :: charRanges rest
  | [] => []

def addComponents (tokens : List Token) : List Token :=
  if 1 < tokens.length && tokens.head? = some .components then tokens else .components :: tokens

def startsComponent : Option Char → Bool
  | none => true
  | some c => isSeparator c

/-- Compiles the rest of a pattern behind `position` characters, of which `previous` is the last
one. The tokens so far are listed from the last one on. -/
def compileFrom (position : Nat) (previous : Option Char) (tokens : List Token) :
    List Char → Except CompileError (List Token)
  | [] => .ok tokens.reverse
  | '*' :: '*' :: '*' :: _ => .error (.tooManyStars (position + 2))
  | ['*', '*'] =>
      if startsComponent previous then .ok (addComponents tokens).reverse
      else .error (.partialComponent (position - 1))
  | '*' :: '*' :: next :: rest =>
      if !startsComponent previous then .error (.partialComponent (position - 1))
      else if !isSeparator next then .error (.partialComponent (position + 2))
      else compileFrom (position + 3) (some next) (addComponents tokens) rest
  | '*' :: rest => compileFrom (position + 1) (some '*') (.anyRun :: tokens) rest
  | '?' :: rest => compileFrom (position + 1) (some '?') (.one .anyChar :: tokens) rest
  | '[' :: rest =>
      let negated := rest.head? = some '!'
      let set := if negated then rest.drop 1 else rest
      let inner := set.take 1 ++ (set.drop 1).takeWhile (· != ']')
      let length := (if negated then 1 else 0) + inner.length + 1
      if (set.drop 1).contains ']' then
        let token : One :=
          if negated then .noneOf (charRanges inner) else .oneOf (charRanges inner)
        compileFrom (position + 1 + length) (some ']') (.one token :: tokens) (rest.drop length)
      else .error (.unclosedBracket position)
  | c :: rest => compileFrom (position + 1) (some c) (.one (.char c) :: tokens) rest
termination_by pattern => pattern.length
decreasing_by all_goals simp only [List.length_cons, List.length_drop]; omega

def compile (pattern : List Char) : Except CompileError (List Token) :=
  compileFrom 0 none [] pattern

/-- How a name compares with a pattern. A name that ends before the pattern is told apart, because
then no longer run of an earlier `*` can help. -/
inductive Outcome
  | matched
  | mismatch
  | exhausted
  deriving DecidableEq, Repr

def tryTails (attempt : List Char → Outcome) : List Char → Outcome
  | [] => attempt []
  | c :: rest =>
      match attempt (c :: rest) with
      | .mismatch => tryTails attempt rest
      | settled => settled

def tryComponents (attempt : List Char → Outcome) : List Char → Outcome
  | [] => attempt []
  | c :: rest =>
      if isSeparator c then
        match attempt rest with
        | .mismatch => tryComponents attempt rest
        | settled => settled
      else tryComponents attempt rest

def run : List Token → List Char → Outcome
  | [], [] => .matched
  | [], _ :: _ => .mismatch
  | .anyRun :: tokens, name => tryTails (run tokens) name
  | .components :: tokens, name =>
      match run tokens name with
      | .mismatch => tryComponents (run tokens) name
      | settled => settled
  | .one _ :: _, [] => .exhausted
  | .one token :: tokens, c :: name => if token.accepts c then run tokens name else .mismatch

end Glob

end AdmissionPolicy
