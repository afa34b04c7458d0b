import AdmissionPolicy.Pattern.Glob

/-!
Name patterns: `*` takes any run of characters, possibly an empty one, `?` takes exactly one
character, and every other character takes itself; brackets have no special meaning. A name is
compared by way of a glob pattern, in which brackets stand in brackets and runs of `*` are one.
-/

namespace AdmissionPolicy.Pattern

def toGlob (afterStar : Bool) : List Char → List Char
  | [] => []
  | '*' :: rest => if afterStar then toGlob true rest else '*' :: toGlob true rest
  | '[' :: rest => '[' :: '[' :: ']' :: toGlob false rest
  | ']' :: rest => '[' :: ']' :: ']' :: toGlob false rest
  | c :: rest => c :: toGlob false rest

def compile (pattern : String) : Except Glob.CompileError (List Glob.Token) :=
  Glob.compile (toGlob false pattern.toList)

def isPlain (pattern : String) : Bool :=
  pattern.isEmpty || pattern == "*"

/-- Whether a name matches a pattern. The empty pattern matches the empty name only. A pattern that
did not compile would be compared with the name as it stands. -/
def matchesName (pattern name : String) : Bool :=
  if pattern.isEmpty then name.isEmpty
  else if pattern == "*" then true
  else
    match compile pattern with
    | .ok tokens => Glob.run tokens name.toList == .matched
    | .error _ => pattern == name

def compileError? (pattern : String) : Option Glob.CompileError :=
  if isPlain pattern then none
  else
    match compile pattern with
    | .ok _ => none
    | .error error => some error

end AdmissionPolicy.Pattern
