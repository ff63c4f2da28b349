import Workflow.Calendar
import Workflow.Unicode.Class

/-!
# Points in time

A point in time is a day, a second of that day and a fraction, all in universal time. A leap
second is the last second of its minute with a fraction of one second or more. Texts are read
with any offset and written in universal time.
-/

namespace Workflow

/-- A point in time. -/
structure Instant where
  day : Int
  second : Nat
  nano : Nat
deriving Repr, DecidableEq

namespace Instant

/-- Whether one point is not after another: by day, then second, then fraction. -/
def notAfter (a b : Instant) : Bool :=
  a.day < b.day || (a.day = b.day &&
    (a.second < b.second || (a.second = b.second && a.nano ≤ b.nano)))

/-- The first and the last day that can be represented. -/
def dayRange : Int × Int :=
  (Date.number ⟨-262143, 1, 1⟩, Date.number ⟨262142, 12, 31⟩)

/-! ## Writing -/

/-- A number with at least `width` digits. -/
def padded (width n : Nat) : String :=
  let digits := toString n
  String.ofList (List.replicate (width - digits.length) '0') ++ digits

/-- A year; one of other than four digits has a sign. -/
def yearText (year : Int) : String :=
  if 0 ≤ year ∧ year ≤ 9999 then padded 4 year.toNat
  else (if year < 0 then "-" else "+") ++ padded 4 year.natAbs

/-- A fraction of a second with none, three, six or nine digits, the fewest that lose nothing. -/
def fractionText (nano : Nat) : String :=
  if nano = 0 then ""
  else if nano % 1000000 = 0 then "." ++ padded 3 (nano / 1000000)
  else if nano % 1000 = 0 then "." ++ padded 6 (nano / 1000)
  else "." ++ padded 9 nano

/-- The written form. -/
def text (t : Instant) : String :=
  let date := Date.ofNumber t.day
  let leap := if 1000000000 ≤ t.nano then 1 else 0
  yearText date.year ++ "-" ++ padded 2 date.month ++ "-" ++ padded 2 date.day ++ "T" ++
    padded 2 (t.second / 3600) ++ ":" ++ padded 2 (t.second / 60 % 60) ++ ":" ++
    padded 2 (t.second % 60 + leap) ++ fractionText (t.nano % 1000000000) ++ "Z"

/-! ## Reading -/

/-- Drops blanks of any kind. -/
def skipBlanks (chars : List Char) : List Char := chars.dropWhile Unicode.isBlank

/-- Reads a number of at most `width` digits. -/
def readDigits (width : Nat) (chars : List Char) : Option (Nat × List Char) :=
  let digits := (chars.takeWhile Char.isDigit).take width
  if digits.isEmpty then none
  else some (digits.foldl (fun n c => n * 10 + (c.toNat - '0'.toNat)) 0, chars.drop digits.length)

/-- Reads a number of one or two digits behind blanks. -/
def readPair (chars : List Char) : Option (Nat × List Char) := readDigits 2 (skipBlanks chars)

/-- Reads one character behind blanks. -/
def readMark (mark : Char) (chars : List Char) : Option (List Char) :=
  match skipBlanks chars with
  | c :: rest => if c = mark then some rest else none
  | [] => none

/-- Reads a year: four digits at most, or any number of them behind a sign. -/
def readYear (chars : List Char) : Option (Int × List Char) :=
  match skipBlanks chars with
  | '-' :: rest => (readDigits rest.length rest).map fun (n, rest) => (-(n : Int), rest)
  | '+' :: rest => (readDigits rest.length rest).map fun (n, rest) => ((n : Int), rest)
  | rest => (readDigits 4 rest).map fun (n, rest) => ((n : Int), rest)

/-- Reads a date. -/
def readDate (chars : List Char) : Option (Date × List Char) := do
  let (year, chars) ← readYear chars
  let chars ← readMark '-' chars
  let (month, chars) ← readPair chars
  let chars ← readMark '-' chars
  let (day, chars) ← readPair chars
  some (⟨year, month, day⟩, chars)

/-- Reads the mark between date and time. -/
def readSeparator : List Char → Option (List Char)
  | 'T' :: rest => some rest
  | 't' :: rest => some rest
  | ' ' :: rest => some rest
  | _ => none

/-- Reads a fraction of a second in billionths; digits past the ninth do not count. -/
def readFraction : List Char → Option (Nat × List Char)
  | '.' :: rest =>
    (readDigits 9 rest).map fun (n, after) =>
      (n * Nat.pow 10 (9 - (rest.length - after.length)), after.dropWhile Char.isDigit)
  | rest => some (0, rest)

/-- A time of day; second 60 is a leap second. -/
def timeOfDay (hour minute second nano : Nat) : Option (Nat × Nat) :=
  if 23 < hour ∨ 59 < minute ∨ 60 < second then none
  else if second = 60 then some (hour * 3600 + minute * 60 + 59, nano + 1000000000)
  else some (hour * 3600 + minute * 60 + second, nano)

/-- Reads a time of day: the second and the fraction. -/
def readTime (chars : List Char) : Option ((Nat × Nat) × List Char) := do
  let (hour, chars) ← readPair chars
  let chars ← readMark ':' chars
  let (minute, chars) ← readPair chars
  let chars ← readMark ':' chars
  let (second, chars) ← readPair chars
  let (nano, chars) ← readFraction chars
  let time ← timeOfDay hour minute second nano
  some (time, chars)

/-- Reads hours and minutes of an offset, two digits each. Colons and blanks between them do
not matter. -/
def readOffsetDigits (chars : List Char) : Option (Nat × List Char) := do
  let h := chars.takeWhile Char.isDigit
  let (hours, _) ← readDigits 2 chars
  if h.length < 2 then none
  else
    let chars := (chars.drop 2).dropWhile fun c => c = ':' || Unicode.isBlank c
    let m := chars.takeWhile Char.isDigit
    let (minutes, _) ← readDigits 2 chars
    if m.length < 2 ∨ 59 < minutes then none
    else some (hours * 3600 + minutes * 60, chars.drop 2)

/-- Reads an offset from universal time in seconds, less than a day. -/
def readOffset (chars : List Char) : Option (Int × List Char) :=
  let signed (sign : Int) (rest : List Char) : Option (Int × List Char) :=
    (readOffsetDigits rest).bind fun (seconds, rest) =>
      if seconds < 86400 then some (sign * seconds, rest) else none
  match chars with
  | 'Z' :: rest => some (0, rest)
  | 'z' :: rest => some (0, rest)
  | '+' :: rest => signed 1 rest
  | '-' :: rest => signed (-1) rest
  | '−' :: rest => signed (-1) rest
  | a :: b :: c :: rest =>
    if a.toUpper = 'U' ∧ b.toUpper = 'T' ∧ c.toUpper = 'C' then some (0, rest) else none
  | _ => none

/-- The point in universal time of a date and a time of day at an offset. -/
def ofLocal (date : Date) (second nano : Nat) (offset : Int) : Option Instant :=
  let total : Int := (second : Int) - offset
  let day := date.number + total.fdiv 86400
  if dayRange.1 ≤ day ∧ day ≤ dayRange.2 then
    some { day := day, second := (total.fmod 86400).toNat, nano := nano }
  else none

/-- Whether the date exists and can be represented. -/
def inRange (date : Date) : Bool :=
  date.valid && -262143 ≤ date.year && date.year ≤ 262142

/-- Reads a point in time. -/
def ofText? (text : String) : Option Instant := do
  let (date, chars) ← readDate text.toList
  let chars ← readSeparator chars
  let ((second, nano), chars) ← readTime chars
  let (offset, chars) ← readOffset (skipBlanks chars)
  if (skipBlanks chars).isEmpty ∧ inRange date then ofLocal date second nano offset else none

end Instant

end Workflow
