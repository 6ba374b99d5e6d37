import Automation.Text.Blank

/-!
# Points in time

A point in time is a day, a second of that day and a fraction of the second, in coordinated
universal time. It is read from a date, a time of day and an offset, and written with the letter
`Z` and no, three, six or nine digits of the fraction. A leap second is the second 59 with a
fraction of a second or more.
-/

namespace Automation

/-- A point in time. Days are counted from 1 January 1970. -/
structure Timestamp where
  day : Int
  second : Nat
  nano : Nat
  deriving Repr, DecidableEq

namespace Timestamp

/-! ## The calendar -/

/-- Whether a year has a leap day. -/
def isLeapYear (year : Int) : Bool :=
  year % 4 == 0 && (year % 100 != 0 || year % 400 == 0)

/-- The days of a month. -/
def daysInMonth (year : Int) (month : Nat) : Nat :=
  if month = 2 then if isLeapYear year then 29 else 28
  else if month = 4 ∨ month = 6 ∨ month = 9 ∨ month = 11 then 30
  else 31

/-- The day of a date. Years are counted from March, so that the leap day ends the year. -/
def dayOfDate (year : Int) (month day : Nat) : Int :=
  let shifted : Int := if month ≤ 2 then year - 1 else year
  let monthFromMarch : Nat := (month + 9) % 12
  let dayOfYear : Int := ((153 * monthFromMarch + 2) / 5 + day - 1 : Nat)
  365 * shifted + shifted / 4 - shifted / 100 + shifted / 400 + dayOfYear - 719468

/-- The date of a day: year, month and day of the month. -/
def dateOfDay (day : Int) : Int × Nat × Nat :=
  let z := day + 719468
  let era := z / 146097
  let dayOfEra := (z - era * 146097).toNat
  let yearOfEra := (dayOfEra - dayOfEra / 1460 + dayOfEra / 36524 - dayOfEra / 146096) / 365
  let dayOfYear := dayOfEra - (365 * yearOfEra + yearOfEra / 4 - yearOfEra / 100)
  let monthFromMarch := (5 * dayOfYear + 2) / 153
  let dayOfMonth := dayOfYear - (153 * monthFromMarch + 2) / 5 + 1
  let month := if monthFromMarch < 10 then monthFromMarch + 3 else monthFromMarch - 9
  let year : Int := (yearOfEra : Int) + era * 400 + (if month ≤ 2 then 1 else 0)
  (year, month, dayOfMonth)

/-! ## Writing -/

/-- A number with leading zeros up to a width. -/
def padded (width n : Nat) : String :=
  let digits := Nat.toDigits 10 n
  String.ofList (List.replicate (width - digits.length) '0' ++ digits)

/-- A year: four digits, or a sign and at least four digits if it does not fit. -/
def yearText (year : Int) : String :=
  if 0 ≤ year ∧ year ≤ 9999 then padded 4 year.toNat
  else if 0 ≤ year then "+" ++ padded 4 year.toNat
  else "-" ++ padded 4 year.natAbs

/-- The fraction of a second in as many groups of three digits as it needs. -/
def fractionText (nano : Nat) : String :=
  if nano = 0 then ""
  else if nano % 1000000 = 0 then "." ++ padded 3 (nano / 1000000)
  else if nano % 1000 = 0 then "." ++ padded 6 (nano / 1000)
  else "." ++ padded 9 nano

/-- The text of a point in time. -/
def text (t : Timestamp) : String :=
  let (year, month, day) := dateOfDay t.day
  let second := t.second % 60 + t.nano / 1000000000
  yearText year ++ "-" ++ padded 2 month ++ "-" ++ padded 2 day ++ "T" ++
    padded 2 (t.second / 3600) ++ ":" ++ padded 2 (t.second / 60 % 60) ++ ":" ++
    padded 2 second ++ fractionText (t.nano % 1000000000) ++ "Z"

/-! ## Reading -/

/-- The number of decimal digits. -/
def digitsNumber (digits : List Char) : Nat :=
  digits.foldl (fun n c => 10 * n + (c.toNat - 48)) 0

/-- The text after blanks. -/
def afterBlank (cs : List Char) : List Char :=
  cs.dropWhile Text.isBlank

/-- A number of at least one digit and at most as many as asked, with blanks before it. -/
def number? (width : Nat) (cs : List Char) : Option (Nat × List Char) :=
  let cs := afterBlank cs
  let digits := (cs.take width).takeWhile Char.isDigit
  if digits.isEmpty then none else some (digitsNumber digits, cs.drop digits.length)

/-- A year: up to four digits, or a sign and any count of digits. -/
def year? (cs : List Char) : Option (Int × List Char) :=
  match afterBlank cs with
  | '-' :: rest =>
    let digits := rest.takeWhile Char.isDigit
    if digits.isEmpty then none
    else some (-(digitsNumber digits : Int), rest.drop digits.length)
  | '+' :: rest =>
    let digits := rest.takeWhile Char.isDigit
    if digits.isEmpty then none else some ((digitsNumber digits : Int), rest.drop digits.length)
  | cs => (number? 4 cs).map fun (n, rest) => ((n : Int), rest)

/-- The text after a mark, with blanks before it. -/
def mark? (mark : Char) (cs : List Char) : Option (List Char) :=
  match afterBlank cs with
  | c :: rest => if c = mark then some rest else none
  | [] => none

/-- The nanoseconds after a point; digits beyond the ninth are dropped. -/
def fraction? (cs : List Char) : Option (Nat × List Char) :=
  match cs with
  | '.' :: rest =>
    let digits := rest.takeWhile Char.isDigit
    let kept := digits.take 9
    if kept.isEmpty then none
    else some (digitsNumber kept * Nat.pow 10 (9 - kept.length), rest.drop digits.length)
  | cs => some (0, cs)

/-- Two digits. -/
def twoDigits? : List Char → Option (Nat × List Char)
  | a :: b :: rest =>
    if a.isDigit && b.isDigit then some (digitsNumber [a, b], rest) else none
  | _ => none

/-- An offset from universal time in seconds: `Z`, `UTC`, or a sign with hours and minutes, which
colons or blanks may separate. -/
def offset? (cs : List Char) : Option (Int × List Char) :=
  let signed (sign : Int) (rest : List Char) : Option (Int × List Char) :=
    match twoDigits? rest with
    | none => none
    | some (hours, rest) =>
      match twoDigits? (rest.dropWhile fun c => c == ':' || Text.isBlank c) with
      | some (minutes, rest) =>
        if 59 < minutes then none
        else some (sign * ((hours * 3600 + minutes * 60 : Nat) : Int), rest)
      | none => none
  if (cs.take 3).map Char.toUpper = ['U', 'T', 'C'] then some (0, cs.drop 3)
  else
    match cs with
    | 'Z' :: rest => some (0, rest)
    | 'z' :: rest => some (0, rest)
    | '+' :: rest => signed 1 rest
    | '-' :: rest => signed (-1) rest
    | '−' :: rest => signed (-1) rest
    | _ => none

/-- The point in time of a date, a time of day and an offset, if there is such a time. The second
60 is a leap second. -/
def ofParts? (year : Int) (month day hour minute second nano : Nat) (offset : Int) :
    Option Timestamp :=
  if 1 ≤ month ∧ month ≤ 12 ∧ 1 ≤ day ∧ day ≤ daysInMonth year month ∧ hour ≤ 23 ∧
      minute ≤ 59 ∧ second ≤ 60 ∧ year.natAbs ≤ 262142 ∧ offset.natAbs < 86400 then
    let (second, nano) := if second = 60 then (59, nano + 1000000000) else (second, nano)
    let total : Int := dayOfDate year month day * 86400 +
      ((hour * 3600 + minute * 60 + second : Nat) : Int) - offset
    some ⟨total / 86400, (total % 86400).toNat, nano⟩
  else none

/-- The separator between date and time. -/
def afterSeparator? : List Char → Option (List Char)
  | 'T' :: rest => some rest
  | 't' :: rest => some rest
  | ' ' :: rest => some rest
  | _ => none

/-- Reads a date, a time of day and an offset. -/
def read? (text : String) : Option Timestamp := do
  let (year, cs) ← year? text.toList
  let cs ← mark? '-' cs
  let (month, cs) ← number? 2 cs
  let cs ← mark? '-' cs
  let (day, cs) ← number? 2 cs
  let cs ← afterSeparator? cs
  let (hour, cs) ← number? 2 cs
  let cs ← mark? ':' cs
  let (minute, cs) ← number? 2 cs
  let cs ← mark? ':' cs
  let (second, cs) ← number? 2 cs
  let (nano, cs) ← fraction? cs
  let (offset, cs) ← offset? (afterBlank cs)
  if (afterBlank cs).isEmpty then ofParts? year month day hour minute second nano offset else none

end Timestamp

end Automation
