import Automation.Expr.Lexer

/-!
# Reading expressions and scripts

A recursive-descent grammar over a list of tokens whose last one is `eof`. Every nested
expression, operator of a chain, suffix of a path and block takes one level of nesting, and the
levels left are what the recursion runs on: with none left the source is nested too deeply. The
lists of the grammar (items, arguments, fields, statements, branches) are loops bounded by the
count of tokens, because each round takes at least one.
-/

namespace Automation.Expr

/-- Why tokens are not read: the nesting is too deep, or a token is out of place. -/
inductive Refusal where
  | tooDeep
  | malformed (pos : Nat) (fault : Fault)

/-- What a rule of the grammar answers: what it read, and the tokens after it. -/
abbrev Parse (α : Type) := Except Refusal (α × List Token)

/-- The first token; behind the last one it is still the end. -/
def peek (ts : List Token) : Token :=
  ts.headD ⟨.eof, 0⟩

/-- The refusal of the first token where the grammar needs something else. -/
def unexpected (what : String) (ts : List Token) : Refusal :=
  .malformed (peek ts).pos (.expected what (peek ts).kind)

/-- An identifier. -/
def name (what : String) : List Token → Parse String
  | ⟨.ident s, _⟩ :: ts => .ok (s, ts)
  | ts => .error (unexpected what ts)

/-- The tokens after a semicolon, if one stands here. -/
def skipSemicolon : List Token → List Token
  | ⟨.semicolon, _⟩ :: ts => ts
  | ts => ts

/-! ## Lists -/

/-- Items with commas between them up to a closing token; a comma may follow the last one. -/
def items (item : List Token → Parse α) (close : TokenKind → Bool) (what : String) :
    Nat → List Token → Parse (List α)
  | 0, ts => .error (unexpected what ts)
  | fuel + 1, ts =>
    if close (peek ts).kind then .ok ([], ts.tail)
    else
      match item ts with
      | .error e => .error e
      | .ok (a, ts) =>
        match ts with
        | ⟨.comma, _⟩ :: ts =>
          match items item close what fuel ts with
          | .error e => .error e
          | .ok (as, ts) => .ok (a :: as, ts)
        | _ =>
          if close (peek ts).kind then .ok ([a], ts.tail) else .error (unexpected what ts)

/-- Whether a token is a closing parenthesis. -/
def isRightParen : TokenKind → Bool
  | .rightParen => true
  | _ => false

/-- Whether a token is a closing bracket. -/
def isRightBracket : TokenKind → Bool
  | .rightBracket => true
  | _ => false

/-- Whether a token is a closing brace. -/
def isRightBrace : TokenKind → Bool
  | .rightBrace => true
  | _ => false

/-- The arguments of a call after its opening parenthesis. -/
def arguments (expression : List Token → Parse Term) (ts : List Token) : Parse (List Term) :=
  items expression isRightParen "',' or ')'" (ts.length + 1) ts

/-- A field of an object: a key with a value, or a name that stands for both. -/
def objectField (expression : List Token → Parse Term) (ts : List Token) : Parse (String × Term) :=
  let key? : Option (String × List Token) :=
    match ts with
    | ⟨.ident k, _⟩ :: ts => some (k, ts)
    | ⟨.string k, _⟩ :: ts => some (k, ts)
    | _ => none
  match key? with
  | none => .error (unexpected "object key" ts)
  | some (k, ⟨.colon, _⟩ :: ts) =>
    match expression ts with
    | .error e => .error e
    | .ok (e, ts) => .ok ((k, e), ts)
  | some (k, ts) => .ok ((k, .ident k), ts)

/-! ## Expressions -/

/-- A literal, a name, an array, an object or an expression between parentheses. -/
def primary (expression : List Token → Parse Term) (ts : List Token) : Parse Term :=
  match ts with
  | ⟨.number x, _⟩ :: ts => .ok (.literal (Value.ofFloat x), ts)
  | ⟨.string s, _⟩ :: ts => .ok (.literal (.string s), ts)
  | ⟨.kwTrue, _⟩ :: ts => .ok (.literal (.bool true), ts)
  | ⟨.kwFalse, _⟩ :: ts => .ok (.literal (.bool false), ts)
  | ⟨.kwNull, _⟩ :: ts => .ok (.literal .null, ts)
  | ⟨.ident s, _⟩ :: ts => .ok (.ident s, ts)
  | ⟨.leftParen, _⟩ :: ts =>
    match expression ts with
    | .error e => .error e
    | .ok (e, ⟨.rightParen, _⟩ :: ts) => .ok (e, ts)
    | .ok (_, ts) => .error (unexpected "')'" ts)
  | ⟨.leftBracket, _⟩ :: ts =>
    match items expression isRightBracket "',' or ']'" (ts.length + 1) ts with
    | .error e => .error e
    | .ok (es, ts) => .ok (.array es, ts)
  | ⟨.leftBrace, _⟩ :: ts =>
    match items (objectField expression) isRightBrace "',' or '\x7d'" (ts.length + 1) ts with
    | .error e => .error e
    | .ok (fs, ts) => .ok (.object fs, ts)
  | ts => .error (unexpected "expression" ts)

/-- The operator before an operand, and the tokens after it. -/
def unaryOperator? : List Token → Option (UnaryOp × List Token)
  | ⟨.bang, _⟩ :: ts => some (.not, ts)
  | ⟨.minus, _⟩ :: ts => some (.negate, ts)
  | _ => none

/-- The operator after an operand, if it binds at least as tightly as asked, and the tokens after
it. -/
def binaryOperator? (least : Nat) : List Token → Option (BinaryOp × List Token)
  | t :: ts =>
    match BinaryOp.ofToken? t.kind with
    | some op => if op.precedence < least then none else some (op, ts)
    | none => none
  | [] => none

mutual

/-- An expression whose operators bind at least as tightly as asked. -/
def expression (depth least : Nat) (ts : List Token) : Parse Term :=
  match depth with
  | 0 => .error .tooDeep
  | depth + 1 =>
    match operand depth ts with
    | .error e => .error e
    | .ok (left, ts) => chain depth least left ts
termination_by (depth, 0)

/-- The operators and operands after a left operand. Each of them nests the left operand one
level deeper. -/
def chain (depth least : Nat) (left : Term) (ts : List Token) : Parse Term :=
  match binaryOperator? least ts with
  | none => .ok (left, ts)
  | some (op, ts) =>
    match depth with
    | 0 => .error .tooDeep
    | depth + 1 =>
      match expression depth (op.precedence + 1) ts with
      | .error e => .error e
      | .ok (right, ts) => chain depth least (.binary left op right) ts
termination_by (depth, 0)

/-- A primary expression with its suffixes, or an operator and its operand. -/
def operand (depth : Nat) (ts : List Token) : Parse Term :=
  match unaryOperator? ts with
  | some (op, ts) =>
    match depth with
    | 0 => .error .tooDeep
    | depth + 1 =>
      match operand depth ts with
      | .error e => .error e
      | .ok (e, ts) => .ok (.unary op e, ts)
  | none =>
    match primary (fun ts => expression depth 1 ts) ts with
    | .error e => .error e
    | .ok (e, ts) => suffixes depth e ts
termination_by (depth, 1)

/-- The members, indexes and calls after an expression. -/
def suffixes (depth : Nat) (e : Term) (ts : List Token) : Parse Term :=
  match ts with
  | ⟨.dot, _⟩ :: ts =>
    match depth with
    | 0 => .error .tooDeep
    | depth + 1 =>
      match ts with
      | ⟨.ident f, _⟩ :: ⟨.leftParen, _⟩ :: ts =>
        match arguments (fun ts => expression depth 1 ts) ts with
        | .error e => .error e
        | .ok (args, ts) => suffixes depth (.call f (e :: args)) ts
      | ⟨.ident property, _⟩ :: ts => suffixes depth (.member e property) ts
      | ⟨.number x, _⟩ :: ts => suffixes depth (.index e (.literal (Value.ofFloat x))) ts
      | ts => .error (unexpected "property name" ts)
  | ⟨.leftBracket, _⟩ :: ts =>
    match depth with
    | 0 => .error .tooDeep
    | depth + 1 =>
      match expression depth 1 ts with
      | .error e => .error e
      | .ok (i, ⟨.rightBracket, _⟩ :: ts) => suffixes depth (.index e i) ts
      | .ok (_, ts) => .error (unexpected "']'" ts)
  | ⟨.leftParen, pos⟩ :: ts =>
    match depth with
    | 0 => .error .tooDeep
    | depth + 1 =>
      match e with
      | .ident f =>
        match arguments (fun ts => expression depth 1 ts) ts with
        | .error e => .error e
        | .ok (args, ts) => suffixes depth (.call f args) ts
      | _ => .error (.malformed pos .notCallable)
  | ts => .ok (e, ts)
termination_by (depth, 0)

end

/-! ## Statements -/

/-- The name and the path that an expression assigns to. -/
def assignTarget? : Term → Option (String × List PathSegment)
  | .ident x => some (x, [])
  | .member e property => (assignTarget? e).map fun (x, path) => (x, path ++ [.field property])
  | .index e i => (assignTarget? e).map fun (x, path) => (x, path ++ [.index i])
  | _ => none

/-- Statements up to the closing brace of a block. -/
def blockBody (statement : List Token → Parse Stmt) : Nat → List Token → Parse (List Stmt)
  | 0, ts => .error (unexpected "'\x7d'" ts)
  | fuel + 1, ts =>
    match (peek ts).kind with
    | .rightBrace => .ok ([], ts.tail)
    | .eof => .error (unexpected "'\x7d'" ts)
    | .semicolon => blockBody statement fuel ts.tail
    | _ =>
      match statement ts with
      | .error e => .error e
      | .ok (s, ts) =>
        match blockBody statement fuel ts with
        | .error e => .error e
        | .ok (ss, ts) => .ok (s :: ss, ts)

/-- A condition and the block that it guards. -/
def guarded (expression : List Token → Parse Term) (block : List Token → Parse (List Stmt))
    (ts : List Token) : Parse (Term × List Stmt) :=
  match expression ts with
  | .error e => .error e
  | .ok (condition, ts) =>
    match block ts with
    | .error e => .error e
    | .ok (body, ts) => .ok ((condition, body), ts)

/-- The further branches of a statement with conditions, and the block of the last `else`. -/
def elseBranches (expression : List Token → Parse Term) (block : List Token → Parse (List Stmt)) :
    Nat → List Token → Parse (List (Term × List Stmt) × Option (List Stmt))
  | 0, ts => .ok (([], none), ts)
  | fuel + 1, ts =>
    match ts with
    | ⟨.kwElse, _⟩ :: ⟨.kwIf, _⟩ :: ts =>
      match guarded expression block ts with
      | .error e => .error e
      | .ok (b, ts) =>
        match elseBranches expression block fuel ts with
        | .error e => .error e
        | .ok ((bs, otherwise), ts) => .ok ((b :: bs, otherwise), ts)
    | ⟨.kwElse, _⟩ :: ts =>
      match block ts with
      | .error e => .error e
      | .ok (body, ts) => .ok (([], some body), ts)
    | ts => .ok (([], none), ts)

/-- A declaration after its keyword. -/
def declaration (expression : List Token → Parse Term) (ts : List Token) : Parse Stmt :=
  match name "variable name" ts with
  | .error e => .error e
  | .ok (x, ⟨.assign, _⟩ :: ts) =>
    match expression ts with
    | .error e => .error e
    | .ok (e, ts) => .ok (.declare x e, ts)
  | .ok (x, ts) => .ok (.declare x (.literal .null), ts)

/-- A conditional statement after its keyword. -/
def conditional (expression : List Token → Parse Term) (block : List Token → Parse (List Stmt))
    (ts : List Token) : Parse Stmt :=
  match guarded expression block ts with
  | .error e => .error e
  | .ok (b, ts) =>
    match elseBranches expression block (ts.length + 1) ts with
    | .error e => .error e
    | .ok ((bs, otherwise), ts) => .ok (.branch (b :: bs) otherwise, ts)

/-- A loop after its keyword; its head may stand between parentheses. -/
def iteration (expression : List Token → Parse Term) (block : List Token → Parse (List Stmt))
    (ts : List Token) : Parse Stmt :=
  let (parenthesized, ts) :=
    match ts with
    | ⟨.leftParen, _⟩ :: ts => (true, ts)
    | ts => (false, ts)
  let ts :=
    match ts with
    | ⟨.kwLet, _⟩ :: ts => ts
    | ts => ts
  match name "loop variable" ts with
  | .error e => .error e
  | .ok (x, ⟨.kwIn, _⟩ :: ts) =>
    match expression ts with
    | .error e => .error e
    | .ok (iterable, ts) =>
      let closed : Except Refusal (List Token) :=
        if parenthesized then
          match ts with
          | ⟨.rightParen, _⟩ :: ts => .ok ts
          | ts => .error (unexpected "')'" ts)
        else .ok ts
      match closed with
      | .error e => .error e
      | .ok ts =>
        match block ts with
        | .error e => .error e
        | .ok (body, ts) => .ok (.loop x iterable body, ts)
  | .ok (_, ts) => .error (unexpected "'in' or 'of'" ts)

/-- A return statement after its keyword. Before a semicolon, a closing brace or the end there is
no value. -/
def returning (expression : List Token → Parse Term) (ts : List Token) : Parse Stmt :=
  match (peek ts).kind with
  | .semicolon => .ok (.ret none, ts)
  | .rightBrace => .ok (.ret none, ts)
  | .eof => .ok (.ret none, ts)
  | _ =>
    match expression ts with
    | .error e => .error e
    | .ok (e, ts) => .ok (.ret (some e), ts)

/-- An expression, or an assignment to it. -/
def simpleStatement (expression : List Token → Parse Term) (ts : List Token) : Parse Stmt :=
  match expression ts with
  | .error e => .error e
  | .ok (e, ⟨.assign, _⟩ :: rest) =>
    match assignTarget? e with
    | none => .error (.malformed (peek ts).pos .notAssignable)
    | some (x, path) =>
      match expression rest with
      | .error e => .error e
      | .ok (value, ts) => .ok (.assign x path value, ts)
  | .ok (e, ts) => .ok (.expr e, ts)

/-- A statement with the semicolon that may end it. -/
def ended : Parse Stmt → Parse Stmt
  | .error e => .error e
  | .ok (s, ts) => .ok (s, skipSemicolon ts)

mutual

/-- A statement. -/
def statement (depth : Nat) (ts : List Token) : Parse Stmt :=
  match ts with
  | ⟨.kwIf, _⟩ :: ts => conditional (expression depth 1) (fun ts => statementBlock depth ts) ts
  | ⟨.kwFor, _⟩ :: ts => iteration (expression depth 1) (fun ts => statementBlock depth ts) ts
  | ⟨.kwLet, _⟩ :: ts => ended (declaration (expression depth 1) ts)
  | ⟨.kwReturn, _⟩ :: ts => ended (returning (expression depth 1) ts)
  | ⟨.kwThrow, _⟩ :: ts =>
    match expression depth 1 ts with
    | .error e => .error e
    | .ok (e, ts) => ended (.ok (.throw e, ts))
  | ts => ended (simpleStatement (expression depth 1) ts)
termination_by (depth, 1)

/-- A block between braces, or a single statement. -/
def statementBlock (depth : Nat) (ts : List Token) : Parse (List Stmt) :=
  match depth with
  | 0 => .error .tooDeep
  | depth + 1 =>
    match ts with
    | ⟨.leftBrace, _⟩ :: ts => blockBody (fun ts => statement depth ts) (ts.length + 1) ts
    | ts =>
      match statement depth ts with
      | .error e => .error e
      | .ok (s, ts) => .ok ([s], ts)
termination_by (depth, 0)

end

/-- Statements up to the end of the source. -/
def statements (depth : Nat) : Nat → List Token → Except Refusal Program
  | 0, ts => .error (unexpected "end of expression" ts)
  | fuel + 1, ts =>
    match (peek ts).kind with
    | .eof => .ok []
    | .semicolon => statements depth fuel ts.tail
    | _ =>
      match statement depth ts with
      | .error e => .error e
      | .ok (s, ts) =>
        match statements depth fuel ts with
        | .error e => .error e
        | .ok ss => .ok (s :: ss)

/-! ## Sources -/

/-- The error of a refusal under a depth limit. -/
def Refusal.toError (limit : Nat) : Refusal → ExprError
  | .tooDeep => .tooDeep limit
  | .malformed pos fault => .malformed pos fault

/-- Reads tokens as one expression. -/
def parseTokens (limit : Nat) (ts : List Token) : Except Refusal Term :=
  match expression limit 1 ts with
  | .error e => .error e
  | .ok (e, ts) =>
    match (peek ts).kind with
    | .eof => .ok e
    | _ => .error (unexpected "end of expression" ts)

/-- Reads a source as one expression, nested at most `limit` deep. -/
def parseExpression (source : String) (limit : Nat) : Except ExprError Term :=
  match tokenize source with
  | .error e => .error e
  | .ok ts => (parseTokens limit ts).mapError (·.toError limit)

/-- Reads a source as a script, nested at most `limit` deep. -/
def parseProgram (source : String) (limit : Nat) : Except ExprError Program :=
  match tokenize source with
  | .error e => .error e
  | .ok ts => (statements limit (ts.length + 1) ts).mapError (·.toError limit)

end Automation.Expr
