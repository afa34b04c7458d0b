/-!
Points in time with a resolution of a nanosecond, and their text: a date and a time of day with an
offset from universal time, read with some freedom and written in universal time.
-/

namespace AdmissionPolicy

/-- Seconds since the start of the year zero, and nanoseconds. A leap second is the second before it
with a billion nanoseconds more. -/
structure Timestamp where
  seconds : Int
  nanoseconds : Nat
  deriving DecidableEq, Repr, Inhabited

namespace Timestamp

inductive ReadError
  | ends
  | invalid
  | outOfRange
  | impossible
  | goesOn
  deriving DecidableEq, Repr

def ReadError.message : ReadError → String
  | .ends => "premature end of input"
  | .invalid => "input contains invalid characters"
  | .outOfRange => "input is out of range"
  | .impossible => "no possible date and time matching input"
  | .goesOn => "trailing input"

/-! ### The calendar -/

def isLeapYear (year : Int) : Bool :=
  year % 4 == 0 && (year % 100 != 0 || year % 400 == 0)

def daysInMonth (year : Int) (month : Nat) : Nat :=
  match month with
  | 2 => if isLeapYear year then 29 else 28
  | 4 | 6 | 9 | 11 => 30
  | _ => 31

def daysBeforeYear (year : Int) : Int :=
  365 * year + (year + 3) / 4 - (year + 99) / 100 + (year + 399) / 400

def daysBeforeMonth (year : Int) (month : Nat) : Nat :=
  (List.range' 1 (month - 1)).foldl (fun days earlier => days + daysInMonth year earlier) 0

/-- The year of a day: the estimate by the mean length of a year is at most one off. -/
def yearOfDay (day : Int) : Int :=
  let guess := day * 400 / 146097
  if day < daysBeforeYear guess then guess - 1
  else if daysBeforeYear (guess + 1) ≤ day then guess + 1
  else guess

def monthOfDay (year : Int) (month day : Nat) : Nat → Nat × Nat
  | 0 => (month, day + 1)
  | more + 1 =>
      let length := daysInMonth year month
      if day < length then (month, day + 1) else monthOfDay year (month + 1) (day - length) more

/-! ### Writing -/

def padded (width value : Nat) : String :=
  let digits := (toString value).toList
  String.ofList (List.replicate (width - digits.length) '0' ++ digits)

def yearText (year : Int) : String :=
  let sign := if year < 0 then "-" else if 9999 < year then "+" else ""
  sign ++ padded 4 year.natAbs

/-- No digits behind the point, or three, six or nine of them, as few as suffice. -/
def fractionText (nanoseconds : Nat) : String :=
  if nanoseconds = 0 then ""
  else if nanoseconds % 1000000 = 0 then "." ++ padded 3 (nanoseconds / 1000000)
  else if nanoseconds % 1000 = 0 then "." ++ padded 6 (nanoseconds / 1000)
  else "." ++ padded 9 nanoseconds

def text (time : Timestamp) : String :=
  let day := time.seconds / 86400
  let second := (time.seconds % 86400).toNat
  let year := yearOfDay day
  let (month, dayOfMonth) := monthOfDay year 1 (day - daysBeforeYear year).toNat 11
  let leap := time.nanoseconds / 1000000000
  yearText year ++ "-" ++ padded 2 month ++ "-" ++ padded 2 dayOfMonth
    ++ "T" ++ padded 2 (second / 3600) ++ ":" ++ padded 2 (second / 60 % 60)
    ++ ":" ++ padded 2 (second % 60 + leap)
    ++ fractionText (time.nanoseconds % 1000000000) ++ "Z"

/-! ### Reading -/

abbrev Reader (α : Type) := List Char → Except ReadError (α × List Char)

def isBlank (c : Char) : Bool :=
  (9 ≤ c.toNat && c.toNat ≤ 13) || c = ' ' || c.toNat = 0x85 || c.toNat = 0xa0 ||
    c.toNat = 0x1680 || (0x2000 ≤ c.toNat && c.toNat ≤ 0x200a) || c.toNat = 0x2028 ||
    c.toNat = 0x2029 || c.toNat = 0x202f || c.toNat = 0x205f || c.toNat = 0x3000

def skipBlanks (text : List Char) : List Char :=
  text.dropWhile isBlank

def decimalValue (digits : List Char) : Nat :=
  digits.foldl (fun total c => total * 10 + (c.toNat - '0'.toNat)) 0

def number (width : Nat) : Reader Nat := fun text =>
  let digits := (text.take width).takeWhile Char.isDigit
  if text.isEmpty then .error .ends
  else if digits.isEmpty then .error .invalid
  else .ok (decimalValue digits, text.drop digits.length)

def field (low high : Nat) : Reader Nat := fun text => do
  let (value, rest) ← number 2 (skipBlanks text)
  if low ≤ value ∧ value ≤ high then .ok (value, rest) else .error .outOfRange

def inCalendar (year : Int) : Bool :=
  -262143 ≤ year && year ≤ 262142

/-- A year of up to four digits, or of any number of digits behind a sign. -/
def year : Reader Int := fun text =>
  match skipBlanks text with
  | '-' :: rest => do
      let (value, rest) ← number rest.length rest
      if value < Nat.pow 2 31 then .ok (-(value : Int), rest) else .error .outOfRange
  | '+' :: rest => do
      let (value, rest) ← number rest.length rest
      if value < Nat.pow 2 31 then .ok (value, rest) else .error .outOfRange
  | rest => do
      let (value, rest) ← number 4 rest
      return (value, rest)

def mark (c : Char) : Reader Unit := fun text =>
  match skipBlanks text with
  | [] => .error .ends
  | first :: rest => if first = c then .ok ((), rest) else .error .invalid

def dateEnd : Reader Unit := fun text =>
  match text with
  | [] => .error .ends
  | first :: rest =>
      if first = 'T' || first = 't' || isBlank first then .ok ((), rest) else .error .invalid

/-- A fraction of a second in nanoseconds: nine digits count, further ones are passed over. -/
def fraction : Reader Nat := fun text =>
  match text with
  | '.' :: rest => do
      let (_, behind) ← number 9 rest
      let digits := rest.take (rest.length - behind.length)
      let scale := Nat.pow 10 (9 - digits.length)
      return (decimalValue digits * scale, behind.dropWhile Char.isDigit)
  | rest => .ok (0, rest)

def offsetPart (highest : Char) : Reader Nat := fun text =>
  match text with
  | first :: second :: rest =>
      if !first.isDigit || !second.isDigit then .error .invalid
      else if highest < first then .error .outOfRange
      else .ok (decimalValue [first, second], rest)
  | _ => .error .ends

/-- Hours and minutes of an offset, in seconds. Colons and blanks may stand between them. -/
def offsetSize : Reader Nat := fun text => do
  let (hours, rest) ← offsetPart '9' text
  let rest := rest.dropWhile fun c => c = ':' || isBlank c
  let (minutes, rest) ← offsetPart '5' rest
  return (hours * 3600 + minutes * 60, rest)

def offset : Reader Int := fun text =>
  match text with
  | [] => .error .ends
  | first :: rest =>
      if first = 'Z' || first = 'z' then .ok (0, rest)
      else if (text.take 3).map Char.toUpper = ['U', 'T', 'C'] then .ok (0, text.drop 3)
      else if first = '+' then do
        let (size, rest) ← offsetSize rest
        return (size, rest)
      else if first = '-' || first.toNat = 0x2212 then do
        let (size, rest) ← offsetSize rest
        return (-(size : Int), rest)
      else .error .invalid

def parse (input : String) : Except ReadError Timestamp := do
  let (year, rest) ← year input.toList
  let (_, rest) ← mark '-' rest
  let (month, rest) ← field 1 12 rest
  let (_, rest) ← mark '-' rest
  let (day, rest) ← field 1 31 rest
  let (_, rest) ← dateEnd rest
  let (hour, rest) ← field 0 23 rest
  let (_, rest) ← mark ':' rest
  let (minute, rest) ← field 0 59 rest
  let (_, rest) ← mark ':' rest
  let (second, rest) ← field 0 60 rest
  let (nanoseconds, rest) ← fraction rest
  let (offset, rest) ← offset (skipBlanks rest)
  if !(skipBlanks rest).isEmpty then .error .goesOn
  else if !inCalendar year || daysInMonth year month < day || 86400 ≤ offset.natAbs then
    .error .outOfRange
  else
    let days := daysBeforeYear year + daysBeforeMonth year month + (day - 1 : Nat)
    let leap := second / 60
    let seconds := days * 86400 + hour * 3600 + minute * 60 + (second - leap : Nat) - offset
    -- The offset can lead out of the calendar once more.
    if inCalendar (yearOfDay (seconds / 86400)) then
      .ok { seconds, nanoseconds := nanoseconds + leap * 1000000000 }
    else .error .impossible

end Timestamp

end AdmissionPolicy
