import Automation.Expr.Token
import Automation.Value.Basic

/-!
# Expressions and statements

The trees that conditions and scripts are read into.
-/

namespace Automation.Expr

/-- Operators before one operand. -/
inductive UnaryOp where
  | not
  | negate
  deriving Repr, DecidableEq

/-- Operators between two operands. -/
inductive BinaryOp where
  | add
  | subtract
  | multiply
  | divide
  | modulo
  | equal
  | notEqual
  | less
  | greater
  | lessEqual
  | greaterEqual
  | regexMatch
  | and
  | or
  deriving Repr, DecidableEq

namespace UnaryOp

/-- The spelling of the operator. -/
def name : UnaryOp → String
  | not => "!"
  | negate => "-"

end UnaryOp

namespace BinaryOp

/-- The spelling of the operator. -/
def name : BinaryOp → String
  | add => "+"
  | subtract => "-"
  | multiply => "*"
  | divide => "/"
  | modulo => "%"
  | equal => "=="
  | notEqual => "!="
  | less => "<"
  | greater => ">"
  | lessEqual => "<="
  | greaterEqual => ">="
  | regexMatch => "=~"
  | and => "&&"
  | or => "||"

/-- How tightly the operator binds. Every operator associates to the left. -/
def precedence : BinaryOp → Nat
  | or => 1
  | and => 2
  | equal => 3
  | notEqual => 3
  | regexMatch => 3
  | less => 4
  | greater => 4
  | lessEqual => 4
  | greaterEqual => 4
  | add => 5
  | subtract => 5
  | multiply => 6
  | divide => 6
  | modulo => 6

/-- The operator that a token writes. -/
def ofToken? : TokenKind → Option BinaryOp
  | .plus => some add
  | .minus => some subtract
  | .star => some multiply
  | .slash => some divide
  | .percent => some modulo
  | .eqEq => some equal
  | .notEq => some notEqual
  | .less => some less
  | .lessEq => some lessEqual
  | .greater => some greater
  | .greaterEq => some greaterEqual
  | .regexMatch => some regexMatch
  | .and => some and
  | .or => some or
  | _ => none

end BinaryOp

/-- An expression. -/
inductive Term where
  | literal (value : Value)
  | ident (name : String)
  | unary (op : UnaryOp) (operand : Term)
  | binary (left : Term) (op : BinaryOp) (right : Term)
  /-- `object.property` -/
  | member (object : Term) (property : String)
  /-- `object[index]` -/
  | index (object index : Term)
  /-- `f(a, b)`, which `a.f(b)` is short for. -/
  | call (name : String) (args : List Term)
  | array (items : List Term)
  | object (fields : List (String × Term))

instance : Inhabited Term := ⟨.literal .null⟩

/-- One step of the path of an assignment. -/
inductive PathSegment where
  | field (name : String)
  | index (key : Term)

/-- A statement of a script. -/
inductive Stmt where
  /-- `let name = value;` -/
  | declare (name : String) (value : Term)
  /-- `name.path = value;` -/
  | assign (name : String) (path : List PathSegment) (value : Term)
  /-- The first branch whose condition is true, or the last block. -/
  | branch (branches : List (Term × List Stmt)) (otherwise : Option (List Stmt))
  /-- The block once for each item. -/
  | loop (name : String) (items : Term) (body : List Stmt)
  | ret (value : Option Term)
  | throw (value : Term)
  | expr (value : Term)

/-- A script. -/
abbrev Program := List Stmt

mutual

/-- The nesting depth of an expression; a leaf has depth one. -/
def Term.depth : Term → Nat
  | .literal _ => 1
  | .ident _ => 1
  | .unary _ e => e.depth + 1
  | .binary l _ r => max l.depth r.depth + 1
  | .member e _ => e.depth + 1
  | .index e i => max e.depth i.depth + 1
  | .call _ args => Term.depthOfItems args + 1
  | .array items => Term.depthOfItems items + 1
  | .object fields => Term.depthOfFields fields + 1

/-- The depth of the deepest item. -/
def Term.depthOfItems : List Term → Nat
  | [] => 0
  | e :: rest => max e.depth (Term.depthOfItems rest)

/-- The depth of the deepest field. -/
def Term.depthOfFields : List (String × Term) → Nat
  | [] => 0
  | (_, e) :: rest => max e.depth (Term.depthOfFields rest)

end

end Automation.Expr

namespace Automation.Syntax

/-- Outside of the language its terms are known as expressions. -/
abbrev Expr := Expr.Term

end Automation.Syntax

namespace Automation.Expr

export Syntax (Expr)

end Automation.Expr
