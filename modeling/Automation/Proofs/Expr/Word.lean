import Automation.Expr.Lexer

/-!
# Written words

How tokens are spelled. A `Word` is a token with one of its spellings: a numeral, a quoted text, an
identifier, or one of the spellings of any other token.
-/

namespace Automation.Expr

/-! ## Characters -/

/-- The code points of the blanks. -/
def blankPoints : List Nat :=
  [0x9, 0xA, 0xB, 0xC, 0xD, 0x20, 0x85, 0xA0, 0x1680, 0x2000, 0x2001, 0x2002, 0x2003, 0x2004, 0x2005,
    0x2006, 0x2007, 0x2008, 0x2009, 0x200A, 0x2028, 0x2029, 0x202F, 0x205F, 0x3000]

theorem mem_blankPoints {c : Char} (h : Text.isBlank c = true) : c.toNat ∈ blankPoints := by
  simp only [Text.isBlank, Bool.or_eq_true, Bool.and_eq_true, decide_eq_true_eq, beq_iff_eq] at h
  simp only [blankPoints, List.mem_cons, List.not_mem_nil, or_false]
  omega

/-- A blank is no part of an identifier. -/
theorem isIdentPart_of_isBlank {c : Char} (h : Text.isBlank c = true) : isIdentPart c = false := by
  have points : ∀ n ∈ blankPoints, isIdentPart (Char.ofNat n) = false := by decide +kernel
  simpa using points _ (mem_blankPoints h)

theorem isBlank_of_isIdentPart {c : Char} (h : isIdentPart c = true) : Text.isBlank c = false := by
  cases blank : Text.isBlank c with
  | false => rfl
  | true =>
    rw [isIdentPart_of_isBlank blank] at h
    cases h

theorem isIdentPart_of_isIdentStart {c : Char} (h : isIdentStart c = true) :
    isIdentPart c = true := by
  simp only [isIdentStart, isIdentPart, Text.isAlphanumeric, Bool.or_eq_true] at h ⊢
  rcases h with (h | h) | h <;> simp [h]

/-- A digit goes on an identifier, but begins none. -/
theorem isIdent_of_isDigit {c : Char} (h : c.isDigit = true) :
    isIdentPart c = true ∧ isIdentStart c = false := by
  have points : ∀ n ∈ List.range' 48 10,
      isIdentPart (Char.ofNat n) = true ∧ isIdentStart (Char.ofNat n) = false := by decide +kernel
  have range : c.toNat ∈ List.range' 48 10 := by
    simp only [Char.isDigit, Bool.and_eq_true, decide_eq_true_eq, ge_iff_le,
      UInt32.le_iff_toNat_le] at h
    have : 48 ≤ c.toNat ∧ c.toNat ≤ 57 := h
    simp only [List.mem_range'_1]
    omega
  simpa using points _ range

/-- A word ends where a text is empty or goes on with a blank. -/
def Apart (cs : List Char) : Prop :=
  ∀ c ∈ cs.head?, Text.isBlank c = true

theorem Apart.nil : Apart [] := by
  simp [Apart]

theorem Apart.cons {c : Char} (h : Text.isBlank c = true) (cs : List Char) : Apart (c :: cs) := by
  simp [Apart, h]

/-- Where a word ends, no part of an identifier follows. -/
theorem Apart.not_part {cs : List Char} (h : Apart cs) : ∀ c ∈ cs.head?, isIdentPart c = false :=
  fun c hc => isIdentPart_of_isBlank (h c hc)

/-- Where a word ends, no digit follows. -/
theorem Apart.not_digit {cs : List Char} (h : Apart cs) : ∀ c ∈ cs.head?, c.isDigit = false := by
  intro c hc
  cases digit : c.isDigit with
  | false => rfl
  | true =>
    have part := (isIdent_of_isDigit digit).1
    rw [h.not_part c hc] at part
    cases part

/-! ## Words of their own kinds -/

/-- Whether a text is made of the characters of identifiers. -/
def isWord (s : String) : Bool :=
  match s.toList with
  | [] => false
  | c :: part => isIdentStart c && part.all isIdentPart

/-- Whether a text may name a variable, a member or a function: a word that is not reserved. -/
def isIdentifier (s : String) : Bool :=
  isWord s && !reservedWords.contains s

/-- A name. -/
abbrev Identifier := { s : String // isIdentifier s = true }

/-- Digits, at least one. -/
structure DigitRun where
  chars : List Char
  nonempty : chars ≠ []
  digits : ∀ c ∈ chars, c.isDigit = true

/-- The sign of an exponent. -/
inductive ExponentSign where
  | none
  | plus
  | minus

/-- The characters of the sign. -/
def ExponentSign.chars : ExponentSign → List Char
  | none => []
  | plus => ['+']
  | minus => ['-']

/-- An exponent of ten, after a small or a capital letter. -/
structure Exponent where
  capital : Bool
  sign : ExponentSign
  digits : DigitRun

namespace Exponent

/-- The characters of the exponent. -/
def chars (e : Exponent) : List Char :=
  (if e.capital then 'E' else 'e') :: (e.sign.chars ++ e.digits.chars)

/-- Whether the exponent is below zero, or is minus zero. -/
def negative (e : Exponent) : Bool :=
  match e.sign with
  | .minus => true
  | _ => false

/-- The number that the exponent writes. -/
def value (e : Exponent) : Int :=
  if e.negative then -(Decimal.digitsToNat e.digits.chars : Int) else
    Decimal.digitsToNat e.digits.chars

end Exponent

/-- An unsigned decimal number. -/
structure Numeral where
  whole : DigitRun
  fraction : Option DigitRun
  exponent : Option Exponent

namespace Numeral

/-- The digits after the point, if there is one. -/
def fractionDigits (n : Numeral) : List Char :=
  (n.fraction.map DigitRun.chars).getD []

/-- The characters of the numeral. -/
def chars (n : Numeral) : List Char :=
  n.whole.chars ++ ((n.fraction.map fun f => '.' :: f.chars).getD [] ++
    (n.exponent.map Exponent.chars).getD [])

/-- The double nearest to the number that the numeral writes. -/
def value (n : Numeral) : Float :=
  Decimal.nearestDecimal false (Decimal.digitsToNat (n.whole.chars ++ n.fractionDigits))
    ((n.exponent.map Exponent.value).getD 0 - n.fractionDigits.length)

end Numeral

/-- The quotes that a text stands between. -/
inductive Quote where
  | single
  | double

/-- The character of the quote. -/
def Quote.char : Quote → Char
  | single => '\''
  | double => '"'

/-- A text with a backslash before every backslash and every quote. -/
def Quote.escape (q : Quote) : List Char → List Char
  | [] => []
  | c :: rest =>
    if c = q.char ∨ c = '\\' then '\\' :: c :: q.escape rest else c :: q.escape rest

/-- A text between quotes. -/
structure Quoted where
  quote : Quote
  text : String

/-- The characters of the text, with its quotes. -/
def Quoted.chars (s : Quoted) : List Char :=
  s.quote.char :: (s.quote.escape s.text.toList ++ [s.quote.char])

/-- The spellings of a token that has no content. -/
def TokenKind.spellings : TokenKind → List String
  | number _ => []
  | string _ => []
  | ident _ => []
  | eof => []
  | kwLet => ["let", "const", "var"]
  | kwIf => ["if"]
  | kwElse => ["else"]
  | kwFor => ["for"]
  | kwIn => ["in", "of"]
  | kwReturn => ["return"]
  | kwThrow => ["throw"]
  | kwTrue => ["true"]
  | kwFalse => ["false"]
  | kwNull => ["null", "undefined"]
  | leftParen => ["("]
  | rightParen => [")"]
  | leftBracket => ["["]
  | rightBracket => ["]"]
  | leftBrace => ["\x7b"]
  | rightBrace => ["\x7d"]
  | comma => [","]
  | dot => ["."]
  | colon => [":"]
  | semicolon => [";"]
  | plus => ["+"]
  | minus => ["-"]
  | star => ["*"]
  | slash => ["/"]
  | percent => ["%"]
  | bang => ["!"]
  | eqEq => ["==", "==="]
  | notEq => ["!=", "!=="]
  | less => ["<"]
  | lessEq => ["<="]
  | greater => [">"]
  | greaterEq => [">="]
  | and => ["&&"]
  | or => ["||"]
  | assign => ["="]
  | regexMatch => ["=~"]

/-- A token with one of its spellings. -/
inductive Word where
  | number (n : Numeral)
  | string (s : Quoted)
  | ident (x : Identifier)
  | mark (kind : TokenKind) (spelling : String) (known : spelling ∈ kind.spellings)

namespace Word

/-- The token of the word. -/
def kind : Word → TokenKind
  | number n => .number n.value
  | string s => .string s.text
  | ident x => .ident x.1
  | mark kind _ _ => kind

/-- The characters of the word. -/
def chars : Word → List Char
  | number n => n.chars
  | string s => s.chars
  | ident x => x.1.toList
  | mark _ spelling _ => spelling.toList

end Word

end Automation.Expr
