import Automation.Regex.Library
import Automation.Regex.Pattern
import Automation.Text.Alphabetic
import Automation.Text.Blank

/-!
# Reading regular expressions

The written form of patterns: alternatives, repetitions, groups with flags and names, classes with
set operations, and escapes. There is no look-around and there are no back-references. Flags hold
from where they stand to the end of their group. A reader works on a cursor, which holds the rest
of the text with the flags and the group names so far, and answers none for a malformed pattern.
-/

namespace Automation.Regex

open Automation.Text

/-- The flags of a group. -/
structure Flags where
  ignoreCase : Bool
  multiLine : Bool
  dotAll : Bool
  crlf : Bool
  unicode : Bool
  ignoreBlanks : Bool

/-- The flags of a pattern before it says otherwise. -/
def Flags.initial : Flags := ⟨false, false, false, false, true, false⟩

/-- Where a reader stands. -/
structure Cursor where
  rest : List Char
  flags : Flags
  names : List (List Char)

namespace Cursor

/-- The cursor at another rest of the text. -/
def move (c : Cursor) (rest : List Char) : Cursor := { c with rest := rest }

end Cursor

/-- The text after blanks and comments. -/
def afterBlanks : (inComment : Bool) → List Char → List Char
  | _, [] => []
  | true, c :: rest => if c = '\n' then afterBlanks false rest else afterBlanks true rest
  | false, c :: rest =>
    if isBlank c then afterBlanks false rest
    else if c = '#' then afterBlanks true rest
    else c :: rest

/-- The text after what the flags skip. -/
def skipBlanks (flags : Flags) (cs : List Char) : List Char :=
  if flags.ignoreBlanks then afterBlanks false cs else cs

theorem afterBlanks_length_le (inComment : Bool) (cs : List Char) :
    (afterBlanks inComment cs).length ≤ cs.length := by
  induction cs generalizing inComment with
  | nil => cases inComment <;> simp [afterBlanks]
  | cons c rest ih =>
    cases inComment with
    | true =>
      simp only [afterBlanks]
      split <;> exact Nat.le_succ_of_le (ih _)
    | false =>
      simp only [afterBlanks]
      split
      · exact Nat.le_succ_of_le (ih _)
      · split
        · exact Nat.le_succ_of_le (ih _)
        · exact Nat.le_refl _

theorem skipBlanks_length_le (flags : Flags) (cs : List Char) :
    (skipBlanks flags cs).length ≤ cs.length := by
  unfold skipBlanks
  split
  · exact afterBlanks_length_le _ _
  · exact Nat.le_refl _

/-- What a single element of a pattern is. -/
inductive Primitive where
  | literal (c : Char)
  | dot
  | look (l : Look)
  | charClass (s : CharSet)

/-! ## Escapes -/

/-- The value of a hexadecimal digit. -/
def hexDigit? (c : Char) : Option Nat :=
  if '0' ≤ c ∧ c ≤ '9' then some (c.toNat - 48)
  else if 'a' ≤ c ∧ c ≤ 'f' then some (c.toNat - 87)
  else if 'A' ≤ c ∧ c ≤ 'F' then some (c.toNat - 55)
  else none

/-- The character of a code point; none for a surrogate or a number that is too large. -/
def charOf? (n : Nat) : Option Char :=
  if n < 0xD800 ∨ (0xDFFF < n ∧ n < 0x110000) then some (Char.ofNat n) else none

/-- A code point of a fixed count of hexadecimal digits. -/
def hexDigits (flags : Flags) : (count : Nat) → (value : Nat) → List Char →
    Option (Char × List Char)
  | 0, value, cs => (charOf? value).map (·, cs)
  | count + 1, value, c :: rest =>
    match hexDigit? c with
    | some d => hexDigits flags count (16 * value + d) (skipBlanks flags rest)
    | none => none
  | _ + 1, _, [] => none

/-- A code point of hexadecimal digits up to a closing brace. -/
def bracedHex (flags : Flags) : (digits : List Nat) → List Char → Option (Char × List Char)
  | _, [] => none
  | digits, '\x7d' :: rest =>
    if digits.isEmpty then none
    else (charOf? (digits.foldr (fun d n => 16 * n + d) 0)).map (·, skipBlanks flags rest)
  | digits, c :: rest =>
    if flags.ignoreBlanks && isBlank c then bracedHex flags digits rest
    else
      match hexDigit? c with
      | some d => bracedHex flags (d :: digits) rest
      | none => none

/-- The code point after `\x`, `\u` or `\U`, which have two, four and eight digits without
braces. -/
def hexEscape (flags : Flags) (count : Nat) (cs : List Char) : Option (Char × List Char) :=
  match skipBlanks flags cs with
  | '\x7b' :: rest => bracedHex flags [] rest
  | rest => hexDigits flags count 0 rest

/-- The part of a text before a mark, and the part after it. -/
def cutAt (mark : List Char) : List Char → Option (List Char × List Char)
  | [] => none
  | c :: rest =>
    if mark.isPrefixOf (c :: rest) then some ([], (c :: rest).drop mark.length)
    else (cutAt mark rest).map fun (before, after) => (c :: before, after)

/-- The set of a property between braces: a name, or a name with a value. -/
def propertySet? (text : List Char) : Option CharSet :=
  let pair (name value : List Char) : Option CharSet :=
    CharSet.ofNameAndValue? (String.ofList name) (String.ofList value)
  match cutAt ['!', '='] text with
  | some (name, value) => (pair name value).map .complement
  | none =>
    match cutAt [':'] text with
    | some (name, value) => pair name value
    | none =>
      match cutAt ['='] text with
      | some (name, value) => pair name value
      | none => CharSet.ofName? (String.ofList text)

/-- The set with case variants, if case is ignored, and then complemented on request. -/
def foldAndNegate (flags : Flags) (negated : Bool) (s : CharSet) : CharSet :=
  let s := if flags.ignoreCase then .folded s else s
  if negated then .complement s else s

/-- A property escape after `\p` or `\P`. -/
def propertyEscape (flags : Flags) (negated : Bool) (cs : List Char) :
    Option (CharSet × List Char) :=
  if !flags.unicode then none
  else
    match skipBlanks flags cs with
    | '\x7b' :: rest =>
      let text := rest.takeWhile (· ≠ '\x7d')
      match rest.drop text.length with
      | [] => none
      | _ :: rest =>
        let name := if flags.ignoreBlanks then text.filter (fun c => !isBlank c) else text
        (propertySet? name).map fun s => (foldAndNegate flags negated s, rest)
    | c :: rest =>
      if c = '\\' then none
      else
        (CharSet.ofName? (String.singleton c)).map fun s =>
          (foldAndNegate flags negated s, skipBlanks flags rest)
    | [] => none

/-- A character with a meaning of its own in patterns. -/
def isMeta (c : Char) : Bool :=
  ['\\', '.', '+', '*', '?', '(', ')', '|', '[', ']', '\x7b', '\x7d', '^', '$', '#', '&', '-',
    '~'].contains c

/-- A character that a backslash leaves as it is: ASCII, and neither a letter, a digit nor an
angle bracket. -/
def isEscapable (c : Char) : Bool :=
  isMeta c || (c.toNat < 128 && !c.isAlphanum && c ≠ '<' && c ≠ '>')

/-- A character of the names in `\b` with braces. -/
def isBoundaryNameChar (c : Char) : Bool :=
  c.isAlpha || c == '-'

/-- The word boundary after `\b`: plain, or named between braces. Braces that do not begin with a
letter or a hyphen belong to a repetition. -/
def boundaryEscape (flags : Flags) (cs : List Char) : Option (Look × List Char) :=
  match cs with
  | '\x7b' :: rest =>
    match skipBlanks flags rest with
    | [] => none
    | c :: more =>
      if isBoundaryNameChar c then
        let word := (c :: more).takeWhile isBoundaryNameChar
        match (c :: more).drop word.length with
        | '\x7d' :: rest =>
          let name := String.ofList word
          if name = "start" then some (.wordStart flags.unicode, rest)
          else if name = "end" then some (.wordEnd flags.unicode, rest)
          else if name = "start-half" then some (.wordStartHalf flags.unicode, rest)
          else if name = "end-half" then some (.wordEndHalf flags.unicode, rest)
          else none
        | _ => none
      else some (.wordBoundary flags.unicode, cs)
  | _ => some (.wordBoundary flags.unicode, cs)

/-- A class of an escape letter; the complements need Unicode, because a byte that is no text
would be in them. -/
def classEscape (flags : Flags) (negated : Bool) (s : Bool → CharSet) : Option CharSet :=
  if negated then if flags.unicode then some (.complement (s true)) else none
  else some (s flags.unicode)

/-- What stands after a backslash. -/
def escape (flags : Flags) (cs : List Char) : Option (Primitive × List Char) :=
  match cs with
  | [] => none
  | c :: rest =>
    let literal (c : Char) : Option (Primitive × List Char) := some (.literal c, rest)
    let hex (count : Nat) : Option (Primitive × List Char) :=
      (hexEscape flags count rest).map fun (c, rest) => (.literal c, rest)
    let letter (negated : Bool) (s : Bool → CharSet) : Option (Primitive × List Char) :=
      (classEscape flags negated s).map fun s => (.charClass s, rest)
    if c.isDigit then none
    else if isEscapable c then literal c
    else
      match c with
      | 'x' => hex 2
      | 'u' => hex 4
      | 'U' => hex 8
      | 'p' => (propertyEscape flags false rest).map fun (s, rest) => (.charClass s, rest)
      | 'P' => (propertyEscape flags true rest).map fun (s, rest) => (.charClass s, rest)
      | 'd' => letter false CharSet.digits
      | 'D' => letter true CharSet.digits
      | 's' => letter false CharSet.spaces
      | 'S' => letter true CharSet.spaces
      | 'w' => letter false CharSet.words
      | 'W' => letter true CharSet.words
      | 'a' => literal '\x07'
      | 'f' => literal '\x0c'
      | 't' => literal '\t'
      | 'n' => literal '\n'
      | 'r' => literal '\r'
      | 'v' => literal '\x0b'
      | 'A' => some (.look .textStart, rest)
      | 'z' => some (.look .textEnd, rest)
      | 'b' => (boundaryEscape flags rest).map fun (l, rest) => (.look l, rest)
      | 'B' => some (.look (.noWordBoundary flags.unicode), rest)
      | '<' => some (.look (.wordStart flags.unicode), rest)
      | '>' => some (.look (.wordEnd flags.unicode), rest)
      | _ => none

/-- One element: an escape, a dot, an anchor or a character. -/
def primitive (flags : Flags) (c : Char) (rest : List Char) : Option (Primitive × List Char) :=
  if c = '\\' then escape flags rest
  else if c = '.' then some (.dot, rest)
  else if c = '^' then
    some (.look (if flags.multiLine then .lineStart flags.crlf else .textStart), rest)
  else if c = '$' then
    some (.look (if flags.multiLine then .lineEnd flags.crlf else .textEnd), rest)
  else some (.literal c, rest)

/-- The pattern of an element. A dot without Unicode would match bytes that are no text. -/
def Primitive.pattern? (flags : Flags) : Primitive → Option Pattern
  | .literal c => some (.set (foldAndNegate flags false (CharSet.single c)))
  | .charClass s => some (.set s)
  | .look l => some (.look l)
  | .dot =>
    if !flags.unicode then none
    else if flags.dotAll then some (.set (.range 0 0x10FFFF))
    else if flags.crlf then
      some (.set (.complement (.union (CharSet.single '\n') (CharSet.single '\r'))))
    else some (.set (.complement (CharSet.single '\n')))

/-! ## Classes -/

/-- The operations between sets in a class. -/
inductive SetOperation where
  | intersection
  | difference
  | symmetricDifference

/-- An operation that waits for its right side. -/
abbrev Pending := Option (CharSet × SetOperation)

/-- Closes the operation before a set. Case variants are added on both sides first. -/
def closePending (flags : Flags) (pending : Pending) (s : CharSet) : CharSet :=
  let fold (s : CharSet) : CharSet := if flags.ignoreCase then .folded s else s
  match pending with
  | none => s
  | some (left, .intersection) => .intersection (fold left) (fold s)
  | some (left, .difference) => .difference (fold left) (fold s)
  | some (left, .symmetricDifference) => .symmetricDifference (fold left) (fold s)

/-- A named ASCII class, which stands between `[:` and `:]` inside a class. -/
def asciiClass? (flags : Flags) (cs : List Char) : Option (CharSet × List Char) :=
  match cs with
  | '[' :: ':' :: rest =>
    let (negated, rest) :=
      match rest with
      | '^' :: rest => (true, rest)
      | _ => (false, rest)
    let name := rest.takeWhile (· ≠ ':')
    match rest.drop name.length with
    | ':' :: ']' :: rest =>
      (CharSet.ofAsciiName? (String.ofList name)).map fun s =>
        (foldAndNegate flags negated s, rest)
    | _ => none
  | _ => none

/-- One end of a range, or an element that is no range. -/
def classElement (flags : Flags) (cs : List Char) : Option (Primitive × List Char) :=
  match cs with
  | [] => none
  | '\\' :: rest => escape flags rest
  | c :: rest => some (.literal c, rest)

/-- A range, a character or a class escape. -/
def classItem (flags : Flags) (cs : List Char) : Option (CharSet × List Char) :=
  match classElement flags cs with
  | none => none
  | some (first, rest) =>
    let alone : Option (CharSet × List Char) :=
      match first with
      | .literal c => some (CharSet.single c, skipBlanks flags rest)
      | .charClass s => some (s, skipBlanks flags rest)
      | _ => none
    match skipBlanks flags rest with
    | '-' :: after =>
      match skipBlanks flags after with
      | [] => none
      | ']' :: _ => alone
      | '-' :: _ => alone
      | after =>
        match first, classElement flags after with
        | .literal low, some (.literal high, rest) =>
          if low ≤ high then some (.range low.toNat high.toNat, rest) else none
        | _, _ => none
    | _ => alone

/-- The hyphens that a class may begin with, which are literal, and the text after them. -/
def leadingHyphens (flags : Flags) (seen : List CharSet) (cs : List Char) :
    List CharSet × List Char :=
  match cs with
  | '-' :: rest => leadingHyphens flags (CharSet.single '-' :: seen) (skipBlanks flags rest)
  | cs => (seen, cs)
termination_by cs.length
decreasing_by
  have := skipBlanks_length_le flags rest
  simp only [List.length_cons]
  omega

/-- The literal characters that a class may begin with: hyphens, or else a closing bracket. -/
def classOpening (flags : Flags) (cs : List Char) : List CharSet × List Char :=
  match leadingHyphens flags [] cs with
  | ([], ']' :: rest) => ([CharSet.single ']'], skipBlanks flags rest)
  | opening => opening

/-- The union of items. -/
def unionOf (items : List CharSet) : CharSet :=
  items.foldr .union CharSet.empty

/-- The set after the opening bracket of a class. -/
def classBody (flags : Flags) (nested : List Char → Option (CharSet × List Char)) :
    Nat → Pending → List CharSet → List Char → Option (CharSet × List Char)
  | 0, _, _, _ => none
  | fuel + 1, pending, items, cs =>
    let operation (op : SetOperation) (rest : List Char) : Option (CharSet × List Char) :=
      classBody flags nested fuel (some (closePending flags pending (unionOf items), op)) [] rest
    match skipBlanks flags cs with
    | [] => none
    | ']' :: rest => some (closePending flags pending (unionOf items), rest)
    | '&' :: '&' :: rest => operation .intersection rest
    | '-' :: '-' :: rest => operation .difference rest
    | '~' :: '~' :: rest => operation .symmetricDifference rest
    | '[' :: rest =>
      match asciiClass? flags ('[' :: rest) with
      | some (s, rest) => classBody flags nested fuel pending (s :: items) rest
      | none =>
        match nested rest with
        | some (s, rest) => classBody flags nested fuel pending (s :: items) rest
        | none => none
    | cs =>
      match classItem flags cs with
      | some (s, rest) => classBody flags nested fuel pending (s :: items) rest
      | none => none

/-- A class after its opening bracket, nested at most `depth` deep. Without Unicode a complement
would hold bytes that are no text. -/
def bracketClass (flags : Flags) : (depth : Nat) → List Char → Option (CharSet × List Char)
  | 0, _ => none
  | depth + 1, cs =>
    let cs := skipBlanks flags cs
    let (negated, cs) :=
      match cs with
      | '^' :: rest => (true, skipBlanks flags rest)
      | _ => (false, cs)
    if negated && !flags.unicode then none
    else
      let (seen, cs) := classOpening flags cs
      (classBody flags (bracketClass flags depth) (cs.length + 1) none seen cs).map
        fun (s, rest) => (foldAndNegate flags negated s, rest)

/-! ## Groups and repetitions -/

/-- The flags after one letter. -/
def Flags.setLetter? (flags : Flags) (on : Bool) (c : Char) : Option Flags :=
  match c with
  | 'i' => some { flags with ignoreCase := on }
  | 'm' => some { flags with multiLine := on }
  | 's' => some { flags with dotAll := on }
  | 'R' => some { flags with crlf := on }
  | 'u' => some { flags with unicode := on }
  | 'x' => some { flags with ignoreBlanks := on }
  | 'U' => some flags
  | _ => none

/-- Flag letters up to a colon or a closing parenthesis: each at most once, one hyphen before
those that are switched off, and no hyphen at the end. -/
def readFlags (flags : Flags) (seen : List Char) :
    List Char → Option (Flags × List Char × Char × List Char)
  | [] => none
  | c :: rest =>
    if c = ':' ∨ c = ')' then
      if seen.head? = some '-' then none else some (flags, seen, c, rest)
    else if seen.contains c then none
    else if c = '-' then readFlags flags (c :: seen) rest
    else
      match flags.setLetter? (!seen.contains '-') c with
      | some flags => readFlags flags (c :: seen) rest
      | none => none

/-- A character of a group name. -/
def isNameChar (first : Bool) (c : Char) : Bool :=
  if first then c == '_' || isAlphabetic c
  else c == '_' || c == '.' || c == '[' || c == ']' || isAlphanumeric c

/-- A group name up to its closing angle bracket. -/
def groupName (cs : List Char) : Option (List Char × List Char) :=
  let name := cs.takeWhile (· ≠ '>')
  match cs.drop name.length, name with
  | _ :: rest, c :: more =>
    if isNameChar true c && more.all (isNameChar false) then some (name, rest) else none
  | _, _ => none

/-- The digits of a decimal number, and the text after it. -/
def decimalDigits (flags : Flags) : (seen : List Char) → List Char → List Char × List Char
  | seen, [] => (seen.reverse, [])
  | seen, c :: rest =>
    if c.isDigit then decimalDigits flags (c :: seen) rest
    else if flags.ignoreBlanks && isBlank c then decimalDigits flags seen rest
    else (seen.reverse, c :: rest)

/-- A decimal number with blanks around it, and the text after it. -/
def decimal (flags : Flags) (cs : List Char) : Option Nat × List Char :=
  let (ds, rest) := decimalDigits flags [] (cs.dropWhile isBlank)
  let n := ds.foldl (fun n c => 10 * n + (c.toNat - 48)) 0
  (if ds.isEmpty || decide (Nat.pow 2 32 ≤ n) then none else some n, rest.dropWhile isBlank)

/-- The counts of a repetition after its opening brace. -/
def counts (flags : Flags) (cs : List Char) : Option ((Nat × Option Nat) × List Char) :=
  match decimal flags (skipBlanks flags cs) with
  | (some least, '\x7d' :: rest) => some ((least, some least), rest)
  | (some least, ',' :: rest) =>
    match skipBlanks flags rest with
    | '\x7d' :: rest => some ((least, none), rest)
    | rest =>
      match decimal flags rest with
      | (some most, '\x7d' :: rest) =>
        if least ≤ most then some ((least, some most), rest) else none
      | _ => none
  | _ => none

/-- The text after the mark of a repetition that prefers to match less. -/
def afterLazyMark (flags : Flags) (cs : List Char) : List Char :=
  match skipBlanks flags cs with
  | '?' :: rest => rest
  | _ => cs

/-- The elements of an alternative so far, last one first. Flags are an element that cannot be
repeated. -/
abbrev Elements := List (Option Pattern)

/-- The pattern of elements. -/
def Elements.pattern (items : Elements) : Pattern :=
  Pattern.ofList (items.reverse.filterMap id)

/-- Repeats the last element. -/
def Elements.repeatLast? (least : Nat) (most : Option Nat) : Elements → Option Elements
  | some p :: rest => some (some (.repetition least most p) :: rest)
  | _ => none

/-- Alternatives up to a closing parenthesis or the end of the text. `group` reads what follows an
opening parenthesis. The answer says whether a parenthesis closed them. -/
def alternatives
    (group : Cursor → Option (Option Pattern × Cursor)) :
    Nat → (done : Option Pattern) → Elements → Cursor → Option (Pattern × Bool × Cursor)
  | 0, _, _, _ => none
  | fuel + 1, done, items, cursor =>
    let flags := cursor.flags
    let current : Pattern :=
      match done with
      | none => items.pattern
      | some p => .alternative p items.pattern
    let repeated (least : Nat) (most : Option Nat) (rest : List Char) :
        Option (Pattern × Bool × Cursor) :=
      match items.repeatLast? least most with
      | some items => alternatives group fuel done items (cursor.move rest)
      | none => none
    match skipBlanks flags cursor.rest with
    | [] => some (current, false, cursor.move [])
    | ')' :: rest => some (current, true, cursor.move rest)
    | '|' :: rest => alternatives group fuel (some current) [] (cursor.move rest)
    | '(' :: rest =>
      match group (cursor.move rest) with
      | some (p, cursor) => alternatives group fuel done (p :: items) cursor
      | none => none
    | '[' :: rest =>
      match bracketClass flags 250 rest with
      | some (s, rest) => alternatives group fuel done (some (.set s) :: items) (cursor.move rest)
      | none => none
    | '?' :: rest => repeated 0 (some 1) (afterLazyMark { flags with ignoreBlanks := false } rest)
    | '*' :: rest => repeated 0 none (afterLazyMark { flags with ignoreBlanks := false } rest)
    | '+' :: rest => repeated 1 none (afterLazyMark { flags with ignoreBlanks := false } rest)
    | '\x7b' :: rest =>
      match counts flags rest with
      | some ((least, most), rest) => repeated least most (afterLazyMark flags rest)
      | none => none
    | c :: rest =>
      match primitive flags c rest with
      | none => none
      | some (element, rest) =>
        match element.pattern? flags with
        | some p => alternatives group fuel done (some p :: items) (cursor.move rest)
        | none => none

/-- What follows an opening parenthesis, nested at most `depth` deep: a group, or flags for the
rest of the group around it. -/
def group : (depth : Nat) → Cursor → Option (Option Pattern × Cursor)
  | 0, _ => none
  | depth + 1, cursor =>
    let outer := cursor.flags
    let body (flags : Flags) (names : List (List Char)) (rest : List Char) :
        Option (Option Pattern × Cursor) :=
      match alternatives (group depth) (rest.length + 1) none [] ⟨rest, flags, names⟩ with
      | some (p, true, inner) => some (some p, ⟨inner.rest, outer, inner.names⟩)
      | _ => none
    let named (rest : List Char) : Option (Option Pattern × Cursor) :=
      match groupName rest with
      | some (name, rest) =>
        if cursor.names.contains name then none else body outer (name :: cursor.names) rest
      | none => none
    match skipBlanks outer cursor.rest with
    | '?' :: '=' :: _ => none
    | '?' :: '!' :: _ => none
    | '?' :: '<' :: '=' :: _ => none
    | '?' :: '<' :: '!' :: _ => none
    | '?' :: 'P' :: '<' :: rest => named rest
    | '?' :: '<' :: rest => named rest
    | '?' :: rest =>
      match readFlags outer [] rest with
      | some (flags, seen, ')', rest) =>
        if seen.isEmpty then none else some (none, ⟨rest, flags, cursor.names⟩)
      | some (flags, _, _, rest) => body flags cursor.names rest
      | none => none
    | rest => body outer cursor.names rest

/-- Reads a pattern. Patterns that compile to too large a program are refused. -/
def Pattern.read? (text : String) : Option Pattern :=
  let cs := text.toList
  match alternatives (group 250) (cs.length + 1) none [] ⟨cs, Flags.initial, []⟩ with
  | some (p, false, _) => if p.programSize ≤ Pattern.programLimit then some p else none
  | _ => none

/-- The library that runs. Its reason is the same for all patterns. -/
instance standard : Library where
  compile pattern :=
    match Pattern.read? pattern with
    | some p => .ok p.matchesIn
    | none => .error "the pattern cannot be read"

end Automation.Regex
