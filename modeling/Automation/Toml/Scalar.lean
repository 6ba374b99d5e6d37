import Automation.Toml.Text

/-!
# Numbers and times in TOML

Integers in four bases, doubles, and dates and times. Underscores may stand between digits. A time is
kept as it is written, as the only field of a record: no setting is a time.
-/

namespace Automation.Toml

/-- Digits with single underscores between them, without the underscores: `none` if there are
none. -/
def readDigits? (isDigit : Char → Bool) : List Char → Option (List Char × List Char)
  | [] => none
  | c :: rest =>
    if isDigit c then
      match rest with
      | '_' :: d :: more =>
        if isDigit d then (readDigits? isDigit (d :: more)).map fun (ds, rest) => (c :: ds, rest)
        else none
      | d :: more =>
        if isDigit d then (readDigits? isDigit (d :: more)).map fun (ds, rest) => (c :: ds, rest)
        else if d = '_' then none
        else some ([c], d :: more)
      | [] => some ([c], [])
    else none

/-- The number that digits write in a base. -/
def numberIn (base : Nat) (digits : List Char) : Nat :=
  digits.foldl (fun n c => base * n + (Value.hexValue? c).getD 0) 0

/-- An integer, if it fits a signed 64-bit word. -/
def integer? (n : Int) : Option Value :=
  if -Int.pow 2 63 ≤ n ∧ n < Int.pow 2 63 then some (.number (.int n)) else none

/-- The bases that a letter behind a zero names. -/
def bases : List (Char × Nat) := [('x', 16), ('o', 8), ('b', 2)]

/-- Reads an integer with a base. -/
def readBased? (cs : List Char) : Option (Value × List Char) :=
  match cs with
  | '0' :: c :: rest => do
    let base ← bases.lookup c
    let isDigit (d : Char) : Bool := (Value.hexValue? d).any fun v => v < base
    let (digits, rest) ← readDigits? isDigit rest
    let v ← integer? (numberIn base digits)
    pure (v, rest)
  | _ => none

/-- The sign before a number and the text behind it. -/
def splitSign (cs : List Char) : Bool × List Char :=
  match cs with
  | '-' :: rest => (true, rest)
  | '+' :: rest => (false, rest)
  | _ => (false, cs)

/-- Reads the exponent of a double: `none` inside if none stands here, `none` if it is malformed. -/
def readExponent? (cs : List Char) : Option (Option Int × List Char) :=
  match cs with
  | c :: rest =>
    if c = 'e' ∨ c = 'E' then do
      let (negative, rest) := splitSign rest
      let (digits, rest) ← readDigits? Char.isDigit rest
      let n : Int := numberIn 10 digits
      pure (some (if negative then -n else n), rest)
    else some (none, cs)
  | [] => some (none, [])

/-- Reads a decimal number. A leading zero stands alone, and a point has digits on both sides. -/
def readDecimal? (cs : List Char) : Option (Value × List Char) := do
  let (negative, cs) := splitSign cs
  let (whole, rest) ← readDigits? Char.isDigit cs
  if whole.head? = some '0' ∧ 1 < whole.length then none
  else
    let (fraction, rest) ←
      match rest with
      | '.' :: rest => (readDigits? Char.isDigit rest).map fun (ds, rest) => (some ds, rest)
      | _ => some (none, rest)
    let (exponent, rest) ← readExponent? rest
    if fraction.isNone ∧ exponent.isNone then
      let n : Int := numberIn 10 whole
      let v ← integer? (if negative then -n else n)
      pure (v, rest)
    else
      let digits := fraction.getD []
      let x := Decimal.nearestDecimal negative (numberIn 10 (whole ++ digits))
        (exponent.getD 0 - digits.length)
      if x.isFinite then pure (.number (.float x), rest) else none

/-- Reads a double that is not a number or not finite. It is kept as zero: no setting is a double. -/
def readSpecial? (cs : List Char) : Option (Value × List Char) :=
  let rest := (splitSign cs).2
  match rest with
  | 'i' :: 'n' :: 'f' :: rest => some (.number (.float 0), rest)
  | 'n' :: 'a' :: 'n' :: rest => some (.number (.float 0), rest)
  | _ => none

/-- Reads a truth value. -/
def readBool? (cs : List Char) : Option (Value × List Char) :=
  match cs with
  | 't' :: 'r' :: 'u' :: 'e' :: rest => some (.bool true, rest)
  | 'f' :: 'a' :: 'l' :: 's' :: 'e' :: rest => some (.bool false, rest)
  | _ => none

/-! ## Dates and times -/

/-- Reads a number of a fixed count of digits. -/
def readFixed? (count : Nat) (cs : List Char) : Option (Nat × List Char) :=
  let digits := cs.take count
  if digits.length = count ∧ digits.all Char.isDigit then some (numberIn 10 digits, cs.drop count)
  else none

/-- The text behind a character. -/
def after? (c : Char) (cs : List Char) : Option (List Char) :=
  match cs with
  | d :: rest => if d = c then some rest else none
  | [] => none

/-- The number of days of a month. -/
def monthDays (year month : Nat) : Nat :=
  if month = 2 then
    if (year % 4 = 0 ∧ year % 100 ≠ 0) ∨ year % 400 = 0 then 29 else 28
  else if [4, 6, 9, 11].contains month then 30
  else 31

/-- The text behind a date. -/
def afterDate? (cs : List Char) : Option (List Char) := do
  let (year, rest) ← readFixed? 4 cs
  let (month, rest) ← readFixed? 2 (← after? '-' rest)
  let (day, rest) ← readFixed? 2 (← after? '-' rest)
  if 1 ≤ month ∧ month ≤ 12 ∧ 1 ≤ day ∧ day ≤ monthDays year month then some rest else none

/-- The text behind a time of day. -/
def afterTime? (cs : List Char) : Option (List Char) := do
  let (hour, rest) ← readFixed? 2 cs
  let (minute, rest) ← readFixed? 2 (← after? ':' rest)
  let (second, rest) ← readFixed? 2 (← after? ':' rest)
  if hour ≤ 23 ∧ minute ≤ 59 ∧ second ≤ 60 then
    match rest with
    | '.' :: more =>
      let digits := more.takeWhile Char.isDigit
      if digits.isEmpty then some rest else some (more.drop digits.length)
    | _ => some rest
  else none

/-- The text behind an offset, or the text itself if none stands here. -/
def afterOffset? (cs : List Char) : Option (List Char) :=
  match cs with
  | 'Z' :: rest => some rest
  | 'z' :: rest => some rest
  | c :: rest =>
    if c = '+' ∨ c = '-' then do
      let (hour, rest) ← readFixed? 2 rest
      let (minute, rest) ← readFixed? 2 (← after? ':' rest)
      if hour ≤ 23 ∧ minute ≤ 59 then some rest else none
    else some cs
  | [] => some []

/-- The text behind a date with or without a time. A blank before something else is no part of
it. -/
def afterDateTime? (cs : List Char) : Option (List Char) := do
  let rest ← afterDate? cs
  match rest with
  | c :: time =>
    if c = 'T' ∨ c = 't' then (afterTime? time).bind afterOffset?
    else if c = ' ' ∧ (readFixed? 2 time).isSome then (afterTime? time).bind afterOffset?
    else some rest
  | [] => some []

/-- Whether a date or a time stands here. -/
def looksLikeTime (cs : List Char) : Bool :=
  let digits := (cs.takeWhile Char.isDigit).length
  (digits == 4 && (cs.drop 4).head? == some '-') || (digits == 2 && (cs.drop 2).head? == some ':')

/-- Reads a date or a time. -/
def readTime? (cs : List Char) : Option (Value × List Char) :=
  ((afterDateTime? cs).orElse fun _ => afterTime? cs).map fun rest =>
    (.object [("time", .string (String.ofList (cs.take (cs.length - rest.length))))], rest)

/-- Reads what is neither a string nor a container. -/
def readScalar? (cs : List Char) : Option (Value × List Char) :=
  if looksLikeTime cs then readTime? cs
  else
    match readBool? cs with
    | some r => some r
    | none =>
      match readSpecial? cs with
      | some r => some r
      | none =>
        match readBased? cs with
        | some r => some r
        | none => readDecimal? cs

end Automation.Toml
