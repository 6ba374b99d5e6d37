import Automation.Decimal.Reader
import Automation.Expr.Error
import Automation.Text.Alphabetic
import Automation.Text.Blank

/-!
# Reading tokens

A source is trivia and lexemes in turn. Trivia is blanks and comments; a comment that is not
closed runs to the end of the text. A lexeme is measured first, as the count of characters that
follow its first one, so that text, lexeme and rest fit together by construction.
-/

namespace Automation.Expr

/-- The bytes of a text. -/
def byteSize (cs : List Char) : Nat :=
  cs.foldr (fun c size => c.utf8Size + size) 0

/-! ## Trivia -/

mutual

/-- The count of characters of the trivia that a text begins with. -/
def triviaLength : List Char → Nat
  | '/' :: '/' :: rest => 2 + lineCommentLength rest
  | '/' :: '*' :: rest => 2 + blockCommentLength rest
  | c :: rest => if Text.isBlank c then 1 + triviaLength rest else 0
  | [] => 0

/-- The same inside a comment that ends with its line. -/
def lineCommentLength : List Char → Nat
  | c :: rest => 1 + if c = '\n' then triviaLength rest else lineCommentLength rest
  | [] => 0

/-- The same inside a comment that has to be closed. -/
def blockCommentLength : List Char → Nat
  | '*' :: '/' :: rest => 2 + triviaLength rest
  | _ :: rest => 1 + blockCommentLength rest
  | [] => 0

end

/-! ## Lexemes -/

/-- A token at the start of a text: its kind, and how many characters follow its first one. -/
structure Lexeme where
  kind : TokenKind
  extra : Nat

/-- The character that a backslash and a character stand for. -/
def unescape (c : Char) : Char :=
  if c = 'n' then '\n'
  else if c = 't' then '\t'
  else if c = 'r' then '\r'
  else if c = '0' then '\x00'
  else c

/-- The content of a string up to its closing quote, and the count of characters through it. -/
def stringBody (quote : Char) : List Char → Option (List Char × Nat)
  | [] => none
  | c :: rest =>
    if c = quote then some ([], 1)
    else if c = '\\' then
      match rest with
      | [] => none
      | e :: rest => (stringBody quote rest).map fun (s, n) => (unescape e :: s, n + 2)
    else (stringBody quote rest).map fun (s, n) => (c :: s, n + 1)

/-- The digits that a text begins with. -/
def leadingDigits (cs : List Char) : List Char :=
  cs.takeWhile Char.isDigit

/-- The count of characters of a fraction. A point counts only before a digit. -/
def fractionLength : List Char → Nat
  | '.' :: rest =>
    let digits := leadingDigits rest
    if digits.isEmpty then 0 else digits.length + 1
  | _ => 0

/-- The count of characters of the sign that a text begins with. -/
def signLength : List Char → Nat
  | '+' :: _ => 1
  | '-' :: _ => 1
  | _ => 0

/-- The count of characters of an exponent. Without digits there is no exponent. -/
def exponentLength : List Char → Nat
  | c :: rest =>
    if c = 'e' ∨ c = 'E' then
      let sign := signLength rest
      let digits := leadingDigits (rest.drop sign)
      if digits.isEmpty then 0 else sign + digits.length + 1
    else 0
  | [] => 0

/-- The count of characters of the number that a text begins with. -/
def numberLength (cs : List Char) : Nat :=
  let whole := (leadingDigits cs).length
  let fraction := fractionLength (cs.drop whole)
  whole + fraction + exponentLength (cs.drop (whole + fraction))

/-- A character that an identifier may begin with. -/
def isIdentStart (c : Char) : Bool :=
  Text.isAlphabetic c || c == '_' || c == '$'

/-- A character that an identifier may go on with. -/
def isIdentPart (c : Char) : Bool :=
  Text.isAlphanumeric c || c == '_' || c == '$'

/-- The lexeme that begins with a character, given the characters after it. -/
def lexeme (c : Char) (rest : List Char) : Except Fault Lexeme :=
  match c with
  | '(' => .ok ⟨.leftParen, 0⟩
  | ')' => .ok ⟨.rightParen, 0⟩
  | '[' => .ok ⟨.leftBracket, 0⟩
  | ']' => .ok ⟨.rightBracket, 0⟩
  | '\x7b' => .ok ⟨.leftBrace, 0⟩
  | '\x7d' => .ok ⟨.rightBrace, 0⟩
  | ',' => .ok ⟨.comma, 0⟩
  | '.' => .ok ⟨.dot, 0⟩
  | ':' => .ok ⟨.colon, 0⟩
  | ';' => .ok ⟨.semicolon, 0⟩
  | '+' => .ok ⟨.plus, 0⟩
  | '-' => .ok ⟨.minus, 0⟩
  | '*' => .ok ⟨.star, 0⟩
  | '/' => .ok ⟨.slash, 0⟩
  | '%' => .ok ⟨.percent, 0⟩
  | '=' =>
    match rest with
    | '=' :: '=' :: _ => .ok ⟨.eqEq, 2⟩
    | '=' :: _ => .ok ⟨.eqEq, 1⟩
    | '~' :: _ => .ok ⟨.regexMatch, 1⟩
    | _ => .ok ⟨.assign, 0⟩
  | '!' =>
    match rest with
    | '=' :: '=' :: _ => .ok ⟨.notEq, 2⟩
    | '=' :: _ => .ok ⟨.notEq, 1⟩
    | _ => .ok ⟨.bang, 0⟩
  | '<' =>
    match rest with
    | '=' :: _ => .ok ⟨.lessEq, 1⟩
    | _ => .ok ⟨.less, 0⟩
  | '>' =>
    match rest with
    | '=' :: _ => .ok ⟨.greaterEq, 1⟩
    | _ => .ok ⟨.greater, 0⟩
  | '&' =>
    match rest with
    | '&' :: _ => .ok ⟨.and, 1⟩
    | _ => .error .expectedAnd
  | '|' =>
    match rest with
    | '|' :: _ => .ok ⟨.or, 1⟩
    | _ => .error .expectedOr
  | c =>
    if c = '"' ∨ c = '\'' then
      match stringBody c rest with
      | some (s, n) => .ok ⟨.string (String.ofList s), n⟩
      | none => .error .unterminatedString
    else if c.isDigit then
      let text := (c :: rest).take (numberLength (c :: rest))
      match Decimal.read? text with
      | some x => .ok ⟨.number x, text.length - 1⟩
      | none => .error (.invalidNumber (String.ofList text))
    else if isIdentStart c then
      let part := rest.takeWhile isIdentPart
      .ok ⟨.ofWord (String.ofList (c :: part)), part.length⟩
    else .error (.unexpectedCharacter c)

/-! ## Sources -/

/-- The tokens of the text that begins at a byte offset. -/
def scan (pos : Nat) (cs : List Char) : Except ExprError (List Token) :=
  let trivia := triviaLength cs
  let start := pos + byteSize (cs.take trivia)
  match _h : cs.drop trivia with
  | [] => .ok [⟨.eof, start⟩]
  | c :: rest =>
    match lexeme c rest with
    | .error fault => .error (.malformed start fault)
    | .ok lex =>
      match scan (start + c.utf8Size + byteSize (rest.take lex.extra)) (rest.drop lex.extra) with
      | .ok tokens => .ok (⟨lex.kind, start⟩ :: tokens)
      | .error e => .error e
termination_by cs.length
decreasing_by
  have hlen := congrArg List.length _h
  simp only [List.length_drop, List.length_cons] at hlen ⊢
  omega

/-- The tokens of a source. -/
def tokenize (source : String) : Except ExprError (List Token) :=
  scan 0 source.toList

end Automation.Expr
