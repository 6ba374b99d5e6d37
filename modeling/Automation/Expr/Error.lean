import Automation.Expr.Tree

/-!
# Errors of expressions and scripts

Every way in which reading, evaluating or running can fail, and the wording of each.
-/

namespace Automation.Expr

/-- What is wrong with a source text. -/
inductive Fault where
  /-- A lone ampersand. -/
  | expectedAnd
  /-- A lone bar. -/
  | expectedOr
  | unterminatedString
  | invalidNumber (text : String)
  | unexpectedCharacter (c : Char)
  /-- The grammar needs one thing, and another token stands there. -/
  | expected (what : String) (found : TokenKind)
  /-- Only a name can be called. -/
  | notCallable
  /-- Only a name with a path of members and indexes can be assigned. -/
  | notAssignable

/-- The wording of a fault. -/
def Fault.message : Fault → String
  | expectedAnd => "expected '&&'"
  | expectedOr => "expected '||'"
  | unterminatedString => "unterminated string"
  | invalidNumber text => "invalid number '" ++ text ++ "'"
  | unexpectedCharacter c => "unexpected character '" ++ String.singleton c ++ "'"
  | expected what found => "expected " ++ what ++ ", found " ++ found.describe
  | notCallable => "only named functions can be called"
  | notAssignable => "invalid assignment target"

/-- An operation met a value of the wrong kind. Kinds are given by their names. -/
inductive TypeFault where
  | negate (kind : String)
  | add (left right : String)
  | arithmetic (op : BinaryOp) (left right : String)
  | compare (op : BinaryOp) (left right : String)
  | compareNaN
  /-- A property of null was read. -/
  | readOfNull (property : String)
  | index (kind : String)
  | pattern (kind : String)
  | tooFewArguments (function : String) (least : Nat)
  | argument (function expected got : String)
  | iterate (kind : String)
  | outOfBounds (position : String)
  | setProperty (property kind : String)

/-- The wording of a type fault. -/
def TypeFault.message : TypeFault → String
  | negate kind => "cannot negate " ++ kind
  | add left right => "cannot add " ++ left ++ " and " ++ right
  | arithmetic op left right =>
    "'" ++ op.name ++ "' needs numbers, got " ++ left ++ " and " ++ right
  | compare op left right => "cannot compare " ++ left ++ " " ++ op.name ++ " " ++ right
  | compareNaN => "cannot compare NaN"
  | readOfNull property => "cannot read property '" ++ property ++ "' of null"
  | index kind => "cannot index with " ++ kind
  | pattern kind => "regex pattern must be a string, got " ++ kind
  | tooFewArguments function least =>
    function ++ "() expects at least " ++ toString least ++ " argument(s)"
  | argument function expected got => function ++ "() expects " ++ expected ++ ", got " ++ got
  | iterate kind => "cannot iterate over " ++ kind
  | outOfBounds position => "array index " ++ position ++ " out of bounds"
  | setProperty property kind => "cannot set property '" ++ property ++ "' on " ++ kind

/-- Why an expression or a script has no value. -/
inductive ExprError where
  /-- The source is malformed at a byte offset. -/
  | malformed (pos : Nat) (fault : Fault)
  | mistyped (fault : TypeFault)
  | undefined (name : String)
  | unknownFunction (name : String)
  /-- A regular expression is refused, for a reason that its library words. -/
  | badPattern {reason : String}
  | divisionByZero
  /-- A script threw this message. -/
  | thrown (message : String)
  /-- A script used up its steps. -/
  | stepLimit (steps : Nat)
  /-- A source is nested too deeply. -/
  | tooDeep (depth : Nat)

/-- The wording of an error. -/
def ExprError.message : ExprError → String
  | malformed pos fault => "Syntax error at offset " ++ toString pos ++ ": " ++ fault.message
  | mistyped fault => "Type error: " ++ fault.message
  | undefined name => name ++ " is not defined"
  | unknownFunction name => "Unknown function: " ++ name
  | @badPattern reason => "Invalid regex: " ++ reason
  | divisionByZero => "Division by zero"
  | thrown message => message
  | stepLimit steps => "Step budget exhausted (" ++ toString steps ++ " steps)"
  | tooDeep depth => "Maximum nesting depth (" ++ toString depth ++ ") exceeded"

/-- Whether the error is a limit of the sandbox and not a fault of the script. -/
def ExprError.isSandboxViolation : ExprError → Bool
  | stepLimit _ => true
  | tooDeep _ => true
  | _ => false

end Automation.Expr
