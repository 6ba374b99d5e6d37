import Automation.Decimal.Binary
import Automation.Value.Basic

/-!
# Reading JSON text

`Value.read` accepts one JSON value with blanks around it. Fields are kept as they stand in the
text, repeated keys included, because a record with a repeated field is refused where it is
decoded; `Value.parse` puts them in normal form. Containers may be nested 127 deep.
-/

namespace Automation.Value

/-- A blank between tokens. -/
def isSpace (c : Char) : Bool :=
  c == ' ' || c == '\n' || c == '\t' || c == '\r'

/-- The text after blanks. -/
def afterSpace (cs : List Char) : List Char :=
  cs.dropWhile isSpace

/-- The value of a hexadecimal digit. -/
def hexValue? (c : Char) : Option Nat :=
  if '0' ≤ c ∧ c ≤ '9' then some (c.toNat - 48)
  else if 'a' ≤ c ∧ c ≤ 'f' then some (c.toNat - 87)
  else if 'A' ≤ c ∧ c ≤ 'F' then some (c.toNat - 55)
  else none

/-- Four hexadecimal digits. -/
def hexFour? (a b c d : Char) : Option Nat :=
  match hexValue? a, hexValue? b, hexValue? c, hexValue? d with
  | some a, some b, some c, some d => some (((a * 16 + b) * 16 + c) * 16 + d)
  | _, _, _, _ => none

/-- The character of a letter after a backslash. -/
def simpleEscape? (c : Char) : Option Char :=
  if c = '"' then some '"'
  else if c = '\\' then some '\\'
  else if c = '/' then some '/'
  else if c = 'b' then some '\x08'
  else if c = 'f' then some '\x0c'
  else if c = 'n' then some '\n'
  else if c = 'r' then some '\r'
  else if c = 't' then some '\t'
  else none

/-- The rest of a string after its opening quote: its characters and the text after the closing
quote. A pair of surrogates is one character, a lone surrogate is refused. -/
def readString : List Char → Option (List Char × List Char)
  | [] => none
  | '"' :: rest => some ([], rest)
  | '\\' :: 'u' :: a :: b :: c :: d :: rest =>
    match hexFour? a b c d with
    | none => none
    | some n =>
      if 0xDC00 ≤ n ∧ n < 0xE000 then none
      else if 0xD800 ≤ n ∧ n < 0xDC00 then
        match rest with
        | '\\' :: 'u' :: e :: f :: g :: h :: rest =>
          match hexFour? e f g h with
          | none => none
          | some m =>
            if 0xDC00 ≤ m ∧ m < 0xE000 then
              (readString rest).map fun (s, after) =>
                (Char.ofNat (0x10000 + (n - 0xD800) * 0x400 + (m - 0xDC00)) :: s, after)
            else none
        | _ => none
      else (readString rest).map fun (s, after) => (Char.ofNat n :: s, after)
  | '\\' :: c :: rest =>
    match simpleEscape? c with
    | none => none
    | some e => (readString rest).map fun (s, after) => (e :: s, after)
  | c :: rest =>
    if c.toNat < 0x20 ∨ c = '\\' then none
    else (readString rest).map fun (s, after) => (c :: s, after)

/-- The number that decimal digits write. -/
def digitsValue (digits : List Char) : Nat :=
  digits.foldl (fun n c => 10 * n + (c.toNat - 48)) 0

/-- The number of a sign, integer digits, fraction digits and an exponent. Without a fraction and
an exponent it is an integer if it fits a word, and `-0` is a double. A number beyond the largest
double is refused. -/
def numberOf (negative : Bool) (whole fraction : List Char) (exponent : Option Int) :
    Option Value :=
  let n := digitsValue whole
  if fraction = [] ∧ exponent = none ∧
      (if negative then n ≠ 0 ∧ n ≤ Nat.pow 2 63 else n < Nat.pow 2 64) then
    some (.number (.int (if negative then -(n : Int) else n)))
  else
    let x := Decimal.nearestDecimal negative (digitsValue (whole ++ fraction))
      (exponent.getD 0 - fraction.length)
    if x.isFinite then some (.number (.float x)) else none

/-- An exponent part, if one stands here: `none` outside if it is malformed. -/
def readExponent (cs : List Char) : Option (Option Int × List Char) :=
  match cs with
  | c :: rest =>
    if c = 'e' ∨ c = 'E' then
      let (negative, rest) :=
        match rest with
        | '+' :: rest => (false, rest)
        | '-' :: rest => (true, rest)
        | _ => (false, rest)
      let digits := rest.takeWhile Char.isDigit
      if digits = [] then none
      else
        let n : Int := digitsValue digits
        some (some (if negative then -n else n), rest.dropWhile Char.isDigit)
    else some (none, cs)
  | [] => some (none, [])

/-- A number: a leading zero stands alone, a point has digits on both sides. -/
def readNumber (cs : List Char) : Option (Value × List Char) :=
  let (negative, cs) :=
    match cs with
    | '-' :: rest => (true, rest)
    | _ => (false, cs)
  let whole := cs.takeWhile Char.isDigit
  let rest := cs.dropWhile Char.isDigit
  if whole = [] ∨ (whole.head? = some '0' ∧ 1 < whole.length) then none
  else
    let (pointed, fraction, rest) :=
      match rest with
      | '.' :: rest => (true, rest.takeWhile Char.isDigit, rest.dropWhile Char.isDigit)
      | _ => (false, [], rest)
    if pointed ∧ fraction = [] then none
    else
      match readExponent rest with
      | none => none
      | some (exponent, rest) => (numberOf negative whole fraction exponent).map (·, rest)

/-- The text after a word, if the text starts with it. -/
def afterWord (word : List Char) (cs : List Char) : Option (List Char) :=
  if word.isPrefixOf cs then some (cs.drop word.length) else none

/-- Items up to the closing bracket, the first of them due. Every item takes a character, so the
length of the text bounds their number. -/
def readItems (value : List Char → Option (Value × List Char)) :
    Nat → List Char → Option (List Value × List Char)
  | 0, _ => none
  | fuel + 1, cs =>
    match value cs with
    | none => none
    | some (v, rest) =>
      match afterSpace rest with
      | ',' :: rest => (readItems value fuel rest).map fun (vs, after) => (v :: vs, after)
      | ']' :: rest => some ([v], rest)
      | _ => none

/-- Fields up to the closing brace, the first of them due. -/
def readFields (value : List Char → Option (Value × List Char)) :
    Nat → List Char → Option (List (String × Value) × List Char)
  | 0, _ => none
  | fuel + 1, cs =>
    match afterSpace cs with
    | '"' :: rest =>
      match readString rest with
      | none => none
      | some (key, rest) =>
        match afterSpace rest with
        | ':' :: rest =>
          match value rest with
          | none => none
          | some (v, rest) =>
            match afterSpace rest with
            | ',' :: rest =>
              (readFields value fuel rest).map fun (fs, after) =>
                ((String.ofList key, v) :: fs, after)
            | '\x7d' :: rest => some ([(String.ofList key, v)], rest)
            | _ => none
        | _ => none
    | _ => none

/-- A value with blanks before it, whose containers nest at most `depth` deep. -/
def readValue : Nat → List Char → Option (Value × List Char)
  | depth, cs =>
    match afterSpace cs with
    | '"' :: rest => (readString rest).map fun (s, after) => (.string (String.ofList s), after)
    | '[' :: rest =>
      match depth with
      | 0 => none
      | depth + 1 =>
        match afterSpace rest with
        | ']' :: rest => some (.array [], rest)
        | _ =>
          (readItems (readValue depth) (rest.length + 1) rest).map fun (vs, after) =>
            (.array vs, after)
    | '\x7b' :: rest =>
      match depth with
      | 0 => none
      | depth + 1 =>
        match afterSpace rest with
        | '\x7d' :: rest => some (.object [], rest)
        | _ =>
          (readFields (readValue depth) (rest.length + 1) rest).map fun (fs, after) =>
            (.object fs, after)
    | cs =>
      match afterWord ['n', 'u', 'l', 'l'] cs with
      | some rest => some (.null, rest)
      | none =>
        match afterWord ['t', 'r', 'u', 'e'] cs with
        | some rest => some (.bool true, rest)
        | none =>
          match afterWord ['f', 'a', 'l', 's', 'e'] cs with
          | some rest => some (.bool false, rest)
          | none => readNumber cs

/-- Reads a text that holds one value, keeping its fields as they are written. -/
def read (text : String) : Option Value :=
  match readValue 127 text.toList with
  | some (v, rest) => if (afterSpace rest).isEmpty then some v else none
  | none => none

/-- Reads a text that holds one value, in normal form. -/
def parse (text : String) : Option Value :=
  (read text).map normalize

end Automation.Value
