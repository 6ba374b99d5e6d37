import Automation.Text.Split
import Automation.Value.Reader

/-!
# Strings in TOML

The four spellings of a string, and the spelling that is written. Basic strings have escapes,
literal strings have none; both may span lines between three quotes. A line break is read as a
single line feed.
-/

namespace Automation.Toml

open Automation.Value (hexValue?)

/-- Whether a character may stand in a comment or a string as it is, line breaks aside. -/
def isPlain (c : Char) : Bool :=
  c == '\t' || (decide (0x20 ≤ c.toNat) && c.toNat != 0x7F)

/-- A blank within a line. -/
def isSpace (c : Char) : Bool := c == ' ' || c == '\t'

/-- The text behind the blanks of a line. -/
def afterSpace (cs : List Char) : List Char := cs.dropWhile isSpace

/-- The text behind a line break, if one stands here. -/
def afterBreak? : List Char → Option (List Char)
  | '\n' :: rest => some rest
  | '\r' :: '\n' :: rest => some rest
  | _ => none

/-- The text behind a line break, or the text itself. -/
def skipBreak (cs : List Char) : List Char := (afterBreak? cs).getD cs

/-- The character of hexadecimal digits. -/
def charOfHex? (digits : List Char) : Option Char := do
  let n ← digits.foldl (fun n c => do
    let n ← n
    let d ← hexValue? c
    pure (16 * n + d)) (some 0)
  if n < 0xD800 ∨ (0xE000 ≤ n ∧ n < 0x110000) then some (Char.ofNat n) else none

/-- The characters of short escapes. -/
def shortEscapes : List (Char × Char) :=
  [('b', '\x08'), ('t', '\t'), ('n', '\n'), ('f', '\x0c'), ('r', '\r'), ('"', '"'), ('\\', '\\')]

/-- Reads an escape behind its backslash: the character and the length of the escape. -/
def escape? (cs : List Char) : Option (Char × Nat) :=
  match cs with
  | [] => none
  | c :: rest =>
    match shortEscapes.lookup c with
    | some d => some (d, 1)
    | none =>
      let size := if c = 'u' then 4 else if c = 'U' then 8 else 0
      if size = 0 ∨ rest.length < size then none
      else (charOfHex? (rest.take size)).map fun d => (d, size + 1)

/-- The length of the blanks and line breaks that a backslash at the end of a line swallows, if at
least one line break is among them. -/
def continuation? (cs : List Char) : Option Nat :=
  let line := afterSpace cs
  match afterBreak? line with
  | none => none
  | some _ =>
    let rest := cs.dropWhile fun c => isSpace c || c == '\n' || c == '\r'
    some (cs.length - rest.length)

/-- Puts a character before the rest of a string that is read. -/
def before (c : Char) (r : Option (List Char × List Char)) : Option (List Char × List Char) :=
  r.map fun (s, rest) => (c :: s, rest)

/-- Reads a basic string behind its quote. `skip` counts characters that are read already. -/
def readBasic : (skip : Nat) → List Char → Option (List Char × List Char)
  | _, [] => none
  | skip + 1, _ :: rest => readBasic skip rest
  | 0, c :: rest =>
    if c = '"' then some ([], rest)
    else if c = '\\' then
      match escape? rest with
      | some (d, size) => before d (readBasic size rest)
      | none => none
    else if isPlain c then before c (readBasic 0 rest)
    else none

/-- Reads a literal string behind its quote. -/
def readLiteral : List Char → Option (List Char × List Char)
  | [] => none
  | c :: rest =>
    if c = '\'' then some ([], rest)
    else if isPlain c then before c (readLiteral rest)
    else none

/-- Reads quotes within a string that three quotes end: the quotes that belong to the string, and
the text behind the string if it ends here. -/
def readQuotes (quote : Char) (cs : List Char) : List Char × Option (List Char) :=
  let count := (cs.takeWhile (· == quote)).length
  if count < 3 then (List.replicate count quote, none)
  else
    let inner := min (count - 3) 2
    (List.replicate inner quote, some (cs.drop (inner + 3)))

/-- Reads a string that three quotes end. -/
def readBlock (quote : Char) (escapes : Bool) : (skip : Nat) → List Char →
    Option (List Char × List Char)
  | _, [] => none
  | skip + 1, _ :: rest => readBlock quote escapes skip rest
  | 0, c :: rest =>
    if c = quote then
      match readQuotes quote (c :: rest) with
      | (inner, some behind) => some (inner, behind)
      | (inner, none) =>
        (readBlock quote escapes (inner.length - 1) rest).map fun (s, behind) => (inner ++ s, behind)
    else if c = '\\' ∧ escapes then
      match escape? rest with
      | some (d, size) => before d (readBlock quote escapes size rest)
      | none =>
        match continuation? rest with
        | some size => readBlock quote escapes size rest
        | none => none
    else if c = '\n' then before '\n' (readBlock quote escapes 0 rest)
    else if c = '\r' then
      if rest.head? = some '\n' then before '\n' (readBlock quote escapes 1 rest) else none
    else if isPlain c then before c (readBlock quote escapes 0 rest)
    else none

/-- Reads a string on one line. -/
def readLine? (cs : List Char) : Option (String × List Char) :=
  match cs with
  | '"' :: rest => (readBasic 0 rest).map fun (s, rest) => (String.ofList s, rest)
  | '\'' :: rest => (readLiteral rest).map fun (s, rest) => (String.ofList s, rest)
  | _ => none

/-- Reads a string of any spelling. -/
def readString? (cs : List Char) : Option (String × List Char) :=
  match cs with
  | '"' :: '"' :: '"' :: rest =>
    (readBlock '"' true 0 (skipBreak rest)).map fun (s, rest) => (String.ofList s, rest)
  | '\'' :: '\'' :: '\'' :: rest =>
    (readBlock '\'' false 0 (skipBreak rest)).map fun (s, rest) => (String.ofList s, rest)
  | cs => readLine? cs

/-! ## Writing -/

/-- The length of the longest run of a character. -/
def longestRun (c : Char) (text : List Char) : Nat :=
  (text.foldl (fun (best, now) d =>
    let now := if d = c then now + 1 else 0
    (max best now, now)) (0, 0)).1

/-- Whether a character can only be written as an escape. -/
def needsEscape (c : Char) : Bool := !isPlain c && c != '\n'

/-- Writes the characters of a basic string; `quotes` is how many quotes may follow each other, and
`run` how many have. -/
def escaped (block : Bool) (quotes run : Nat) : List Char → List Char
  | [] => []
  | c :: rest =>
    if c = '"' then
      if run < quotes then '"' :: escaped block quotes (run + 1) rest
      else '\\' :: '"' :: escaped block quotes 0 rest
    else
      let spelling :=
        if c = '\n' ∧ block then [c]
        else
          match shortEscapes.find? fun entry => entry.2 == c with
          | some entry => ['\\', entry.1]
          | none =>
            if needsEscape c then
              let digit (k : Nat) : Char := (Nat.digitChar (c.toNat / Nat.pow 16 k % 16)).toUpper
              ['\\', 'u', digit 3, digit 2, digit 1, digit 0]
            else [c]
      spelling ++ escaped block quotes 0 rest

/-- The text between quotes; between three quotes a line break comes first if the text has one. -/
def quoted (quote : String) (block : Bool) (text inner : List Char) : String :=
  quote ++ (if block && text.contains '\n' then "\n" else "") ++ String.ofList inner ++ quote

/-- Writes a string in the plainest spelling that needs no escapes, or else in a basic one. -/
def writeString (s : String) : String :=
  let text := s.toList
  let controls := text.any needsEscape
  let backslash := text.contains '\\'
  let lines := text.contains '\n'
  let single := longestRun '\'' text
  let double := longestRun '"' text
  let basic := quoted "\"" false text (escaped false 0 0 text)
  let basicBlock := quoted "\"\"\"" true text (escaped true 2 0 text)
  if !controls && !backslash && double == 0 && !lines then basic
  else if !controls && single == 0 && !lines then quoted "'" false text text
  else if !controls && !backslash && decide (double ≤ 2) then basicBlock
  else if !controls && decide (single ≤ 2) then quoted "'''" true text text
  else if lines then basicBlock
  else basic

end Automation.Toml
