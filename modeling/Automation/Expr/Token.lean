import Automation.Decimal.Layout
import Automation.Text.Quoted

/-!
# Tokens

The tokens that conditions and scripts are made of. A token carries the byte offset of its first
character; the last token of a source is `eof`, at the offset behind the text.
-/

namespace Automation.Expr

/-- What a token is. -/
inductive TokenKind where
  | number (x : Float)
  | string (s : String)
  | ident (name : String)
  | kwLet
  | kwIf
  | kwElse
  | kwFor
  | kwIn
  | kwReturn
  | kwThrow
  | kwTrue
  | kwFalse
  | kwNull
  | leftParen
  | rightParen
  | leftBracket
  | rightBracket
  | leftBrace
  | rightBrace
  | comma
  | dot
  | colon
  | semicolon
  | plus
  | minus
  | star
  | slash
  | percent
  | bang
  | eqEq
  | notEq
  | less
  | lessEq
  | greater
  | greaterEq
  | and
  | or
  | assign
  | regexMatch
  | eof

instance : Inhabited TokenKind := ⟨.eof⟩

/-- A token with the byte offset of its first character. -/
structure Token where
  kind : TokenKind
  pos : Nat
  deriving Inhabited

namespace TokenKind

/-- The name of the kind of token. -/
def label : TokenKind → String
  | number _ => "Number"
  | string _ => "Str"
  | ident _ => "Ident"
  | kwLet => "Let"
  | kwIf => "If"
  | kwElse => "Else"
  | kwFor => "For"
  | kwIn => "In"
  | kwReturn => "Return"
  | kwThrow => "Throw"
  | kwTrue => "True"
  | kwFalse => "False"
  | kwNull => "Null"
  | leftParen => "LeftParen"
  | rightParen => "RightParen"
  | leftBracket => "LeftBracket"
  | rightBracket => "RightBracket"
  | leftBrace => "LeftBrace"
  | rightBrace => "RightBrace"
  | comma => "Comma"
  | dot => "Dot"
  | colon => "Colon"
  | semicolon => "Semicolon"
  | plus => "Plus"
  | minus => "Minus"
  | star => "Star"
  | slash => "Slash"
  | percent => "Percent"
  | bang => "Bang"
  | eqEq => "EqEq"
  | notEq => "NotEq"
  | less => "Less"
  | lessEq => "LessEq"
  | greater => "Greater"
  | greaterEq => "GreaterEq"
  | and => "And"
  | or => "Or"
  | assign => "Assign"
  | regexMatch => "RegexMatch"
  | eof => "Eof"

/-- The token as an error message names it: a number or a text with its content, the end of the
source in words. -/
def describe : TokenKind → String
  | number x => "Number(" ++ Decimal.messageLayout.write x ++ ")"
  | string s => "Str(" ++ Text.quoted s ++ ")"
  | ident name => "Ident(" ++ Text.quoted name ++ ")"
  | eof => "end of input"
  | kind => kind.label

/-- The token of a word: a keyword in one of its spellings, or an identifier. -/
def ofWord (word : String) : TokenKind :=
  if word = "let" ∨ word = "const" ∨ word = "var" then kwLet
  else if word = "if" then kwIf
  else if word = "else" then kwElse
  else if word = "for" then kwFor
  else if word = "in" ∨ word = "of" then kwIn
  else if word = "return" then kwReturn
  else if word = "throw" then kwThrow
  else if word = "true" then kwTrue
  else if word = "false" then kwFalse
  else if word = "null" ∨ word = "undefined" then kwNull
  else ident word

end TokenKind

/-- The words that are no identifiers. -/
def reservedWords : List String :=
  ["let", "const", "var", "if", "else", "for", "in", "of", "return", "throw", "true", "false",
    "null", "undefined"]

/-- A word that is not reserved is an identifier. -/
theorem TokenKind.ofWord_eq_ident {word : String} (h : word ∉ reservedWords) :
    TokenKind.ofWord word = .ident word := by
  simp only [reservedWords, List.mem_cons, List.not_mem_nil, or_false, not_or] at h
  simp [TokenKind.ofWord, h]

end Automation.Expr
