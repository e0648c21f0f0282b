import EntitySql.Number.Power
import EntitySql.Text.Blank
import EntitySql.Time.Timestamp

/-!
# Reading dates and times

Each reader takes the characters before it and gives its result with the rest, or nothing.  The form
is that of the texts of `Timestamp`, read with tolerance: white space may stand before a number and
around the separators, numbers may have fewer digits, and a year with a sign may have more.

A zone is `Z`, `UTC`, or a sign with hours and minutes, which colons or white space may separate.
-/

namespace EntitySql.TimeReader

/-- The value of a list of decimal digits. -/
def digitsValue (ds : List Char) : Nat :=
  ds.foldl (fun n c => 10 * n + (c.toNat - 48)) 0

/-- One to `most` decimal digits. -/
def digits (most : Nat) (s : List Char) : Option (Nat × List Char) :=
  let ds := (s.take most).takeWhile Char.isDigit
  if ds.isEmpty then none else some (digitsValue ds, s.drop ds.length)

/-- White space and then one or two digits. -/
def twoDigits (s : List Char) : Option (Nat × List Char) := digits 2 (Blank.trimStart s)

/-- The given character. -/
def exactly (c : Char) : List Char → Option (List Char)
  | d :: rest => if d = c then some rest else none
  | [] => none

/-- White space and then the given character. -/
def separator (c : Char) (s : List Char) : Option (List Char) := exactly c (Blank.trimStart s)

/-- A year: up to four digits, or a sign and any number of them. -/
def year (s : List Char) : Option (Int × List Char) :=
  match Blank.trimStart s with
  | '-' :: rest => (digits rest.length rest).map fun (n, r) => (-(n : Int), r)
  | '+' :: rest => (digits rest.length rest).map fun (n, r) => ((n : Int), r)
  | rest => (digits 4 rest).map fun (n, r) => ((n : Int), r)

/-- Year, month and day with hyphens between them. -/
def date (s : List Char) : Option (Date × List Char) := do
  let (y, s) ← year s
  let s ← separator '-' s
  let (m, s) ← twoDigits s
  let s ← separator '-' s
  let (d, s) ← twoDigits s
  let day ← Date.ofCivil? y m d
  return (day, s)

/-- A point and digits, of which the first nine count; nothing reads as zero nanoseconds. -/
def fraction : List Char → Option (Nat × List Char)
  | '.' :: rest =>
    let ds := rest.takeWhile Char.isDigit
    let kept := ds.take 9
    if ds.isEmpty then none
    else some (digitsValue kept * powerOfTen (9 - kept.length), rest.drop ds.length)
  | rest => some (0, rest)

/-- Hours, minutes, seconds and fraction: the time of day. -/
def clock (s : List Char) : Option (TimeOfDay × List Char) := do
  let (h, s) ← twoDigits s
  let s ← separator ':' s
  let (m, s) ← twoDigits s
  let s ← separator ':' s
  let (sec, s) ← twoDigits s
  let (nano, s) ← fraction s
  let time ← TimeOfDay.ofClock? h m sec nano
  return (time, s)

/-- Exactly two digits. -/
def pair : List Char → Option (Nat × List Char)
  | a :: b :: rest =>
    if a.isDigit && b.isDigit then some (digitsValue [a, b], rest) else none
  | _ => none

/-- Hours and minutes of a zone, in seconds. -/
def offset (s : List Char) : Option (Nat × List Char) := do
  let (h, s) ← pair s
  let (m, s) ← pair (s.dropWhile fun c => c == ':' || Blank.isBlank c)
  if 59 < m then none else return (h * 3600 + m * 60, s)

/-- The seconds that a zone is ahead of universal time. -/
def zone (s : List Char) : Option (Int × List Char) :=
  if (s.take 3).map Char.toUpper = ['U', 'T', 'C'] then some (0, s.drop 3)
  else match s with
    | 'Z' :: rest => some (0, rest)
    | 'z' :: rest => some (0, rest)
    | '+' :: rest => (offset rest).map fun (n, r) => ((n : Int), r)
    | '-' :: rest => (offset rest).map fun (n, r) => (-(n : Int), r)
    | '\u2212' :: rest => (offset rest).map fun (n, r) => (-(n : Int), r)
    | _ => none

/-- A whole text that is a date. -/
def readDate? (s : String) : Option Date := do
  let (d, rest) ← date s.toList
  if (Blank.trimStart rest).isEmpty then some d else none

/-- A whole text that is a date and a time of day with `T` between them. -/
def readLocal? (s : String) : Option LocalDateTime := do
  let (d, s) ← date s.toList
  let s ← separator 'T' s
  let (time, rest) ← clock s
  if (Blank.trimStart rest).isEmpty then some ⟨d, time⟩ else none

/-- The separator between date and time of a timestamp: `T`, `t` or a blank. -/
def timeMark : List Char → Option (List Char)
  | 'T' :: rest => some rest
  | 't' :: rest => some rest
  | ' ' :: rest => some rest
  | _ => none

/-- A whole text that is a date, a time of day and a zone, as the point in universal time. -/
def readTimestamp? (s : String) : Option Timestamp := do
  let (d, s) ← date s.toList
  let s ← timeMark s
  let (time, s) ← clock s
  let (ahead, rest) ← zone (Blank.trimStart s)
  if (Blank.trimStart rest).isEmpty && ahead.natAbs < 86400 then
    Timestamp.ofLocal? ⟨d, time⟩ ahead
  else none

end EntitySql.TimeReader
