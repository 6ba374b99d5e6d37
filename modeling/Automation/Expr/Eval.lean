import Automation.Expr.Builtin
import Automation.Expr.Parser

/-!
# Evaluating expressions

The value of an expression under bindings of its variables. In lenient mode an unknown name is
null and a property of null is null; in strict mode both are errors. Operands are evaluated from
left to right, and `&&` and `||` answer the operand that decides.
-/

namespace Automation.Expr

/-- How names without a value and properties of null are treated. -/
inductive Mode where
  | lenient
  | strict
  deriving Repr, DecidableEq

/-- The nesting that conditions may have. -/
def conditionDepth : Nat := 64

/-! ## Operators -/

/-- The error of an operation on two values. -/
def mistypedPair (fault : String → String → TypeFault) (l r : Value) : ExprError :=
  .mistyped (fault l.typeName r.typeName)

/-- An operation on two numbers. -/
def arithmetic (op : BinaryOp) (f : Float → Float → Except ExprError Float) (l r : Value) :
    Except ExprError Value :=
  match l, r with
  | .number a, .number b => (f a.toFloat b.toFloat).map Value.ofFloat
  | _, _ => .error (mistypedPair (.arithmetic op) l r)

/-- Adds numbers, joins texts with anything, or appends arrays. -/
def addValues (l r : Value) : Except ExprError Value :=
  match l, r with
  | .number a, .number b => .ok (Value.ofFloat (a.toFloat + b.toFloat))
  | .string _, _ => .ok (.string (l.display ++ r.display))
  | _, .string _ => .ok (.string (l.display ++ r.display))
  | .array as, .array bs => .ok (.array (as ++ bs))
  | _, _ => .error (mistypedPair .add l r)

/-- A quotient or remainder, unless the divisor is zero. -/
def divided (f : Float → Float → Float) (a b : Float) : Except ExprError Float :=
  if b == 0.0 then .error .divisionByZero else .ok (f a b)

/-- The order of two numbers or of two texts. -/
def compareValues (op : BinaryOp) (l r : Value) : Except ExprError Ordering :=
  match l, r with
  | .number a, .number b =>
    let x := a.toFloat
    let y := b.toFloat
    if x < y then .ok .lt
    else if y < x then .ok .gt
    else if x == y then .ok .eq
    else .error (.mistyped .compareNaN)
  | .string a, .string b => .ok (if a < b then .lt else if a = b then .eq else .gt)
  | _, _ => .error (mistypedPair (.compare op) l r)

/-- Whether a pattern matches a value. Null matches nothing. -/
def matchValues [Regex.Library] (l r : Value) : Except ExprError Value :=
  match r with
  | .string pattern =>
    match l with
    | .null => .ok (.bool false)
    | _ => (Builtin.matchPattern pattern l.display).map .bool
  | _ => .error (.mistyped (.pattern r.typeName))

/-- The value of an operator on two values. The operators that may skip their right operand are
not decided here. -/
def applyBinary [Regex.Library] (op : BinaryOp) (l r : Value) : Except ExprError Value :=
  match op with
  | .add => addValues l r
  | .subtract => arithmetic op (fun a b => .ok (a - b)) l r
  | .multiply => arithmetic op (fun a b => .ok (a * b)) l r
  | .divide => arithmetic op (divided (· / ·)) l r
  | .modulo => arithmetic op (divided Decimal.remainder) l r
  | .equal => .ok (.bool (l.looseEq r))
  | .notEqual => .ok (.bool (!l.looseEq r))
  | .less => (compareValues op l r).map fun o => .bool (o == .lt)
  | .lessEqual => (compareValues op l r).map fun o => .bool (o != .gt)
  | .greater => (compareValues op l r).map fun o => .bool (o == .gt)
  | .greaterEqual => (compareValues op l r).map fun o => .bool (o != .lt)
  | .regexMatch => matchValues l r
  | .and => .ok (if l.truthy then r else l)
  | .or => .ok (if l.truthy then l else r)

/-- The value of an operator on one value. -/
def applyUnary (op : UnaryOp) (v : Value) : Except ExprError Value :=
  match op with
  | .not => .ok (.bool (!v.truthy))
  | .negate =>
    match v with
    | .number n => .ok (Value.ofFloat (-n.toFloat))
    | _ => .error (.mistyped (.negate v.typeName))

/-! ## Access -/

/-- A property of a value: a field of an object, or null. -/
def propertyOf (v : Value) (name : String) : Value :=
  match v with
  | .object fields => (Fields.get? name fields).getD .null
  | _ => .null

/-- The item or character at a position, or null. -/
def elementAt (v : Value) (n : Number) : Value :=
  match n.toNat? with
  | none => .null
  | some i =>
    match v with
    | .array items => items[i]?.getD .null
    | .string s =>
      match s.toList[i]? with
      | some c => .string (String.singleton c)
      | none => .null
    | _ => .null

/-- Whether the mode lets a property of a value be read. -/
def checkReadable (mode : Mode) (v : Value) (property : String) : Except ExprError Unit :=
  match mode, v with
  | .strict, .null => .error (.mistyped (.readOfNull property))
  | _, _ => .ok ()

/-- The value of `v.name`. The length of texts, arrays and objects comes before a field of that
name. -/
def memberOf (mode : Mode) (v : Value) (name : String) : Except ExprError Value :=
  match checkReadable mode v name with
  | .error e => .error e
  | .ok () =>
    match (if name = "length" then v.length? else none) with
    | some n => .ok (Value.ofNat n)
    | none => .ok (propertyOf v name)

/-- The value of `v[key]`. -/
def indexOf (mode : Mode) (v key : Value) : Except ExprError Value :=
  match checkReadable mode v key.display with
  | .error e => .error e
  | .ok () =>
    match key with
    | .number n => .ok (elementAt v n)
    | .string name => .ok (propertyOf v name)
    | _ => .error (.mistyped (.index key.typeName))

/-- The value of a variable. -/
def lookUp (mode : Mode) (vars : Fields) (name : String) : Except ExprError Value :=
  match Fields.get? name vars, mode with
  | some v, _ => .ok v
  | none, .lenient => .ok .null
  | none, .strict => .error (.undefined name)

/-! ## Expressions -/

variable [Regex.Library]

mutual

/-- The value of an expression. -/
def Term.eval (mode : Mode) (vars : Fields) : Term → Except ExprError Value
  | .literal v => .ok v
  | .ident name => lookUp mode vars name
  | .unary op e =>
    match e.eval mode vars with
    | .error err => .error err
    | .ok v => applyUnary op v
  | .binary l op r =>
    match l.eval mode vars with
    | .error err => .error err
    | .ok a =>
      match op with
      | .and => if a.truthy then r.eval mode vars else .ok a
      | .or => if a.truthy then .ok a else r.eval mode vars
      | op =>
        match r.eval mode vars with
        | .error err => .error err
        | .ok b => applyBinary op a b
  | .member e name =>
    match e.eval mode vars with
    | .error err => .error err
    | .ok v => memberOf mode v name
  | .index e i =>
    match e.eval mode vars with
    | .error err => .error err
    | .ok v =>
      match i.eval mode vars with
      | .error err => .error err
      | .ok key => indexOf mode v key
  | .call name args =>
    if Builtin.isBuiltin name then
      match Term.evalItems mode vars args with
      | .error err => .error err
      | .ok values => Builtin.call name values
    else .error (.unknownFunction name)
  | .array items =>
    match Term.evalItems mode vars items with
    | .error err => .error err
    | .ok values => .ok (.array values)
  | .object fields =>
    match Term.evalFields mode vars fields with
    | .error err => .error err
    | .ok pairs => .ok (.object (Fields.ofPairs pairs))

/-- The values of items. -/
def Term.evalItems (mode : Mode) (vars : Fields) : List Term → Except ExprError (List Value)
  | [] => .ok []
  | e :: rest =>
    match e.eval mode vars with
    | .error err => .error err
    | .ok v =>
      match Term.evalItems mode vars rest with
      | .error err => .error err
      | .ok vs => .ok (v :: vs)

/-- The values of fields. -/
def Term.evalFields (mode : Mode) (vars : Fields) :
    List (String × Term) → Except ExprError (List (String × Value))
  | [] => .ok []
  | (k, e) :: rest =>
    match e.eval mode vars with
    | .error err => .error err
    | .ok v =>
      match Term.evalFields mode vars rest with
      | .error err => .error err
      | .ok vs => .ok ((k, v) :: vs)

end

/-! ## Conditions -/

/-- The name under which the whole context is bound. -/
def contextName : String := "ctx"

/-- The bindings of a context: each of its fields, and the context itself under its own name. -/
def bindingsOfContext (context : Fields) : Fields :=
  Fields.insert contextName (.object context) context

/-- The value of a source text under a context, in lenient mode. -/
def evaluateSource (source : String) (context : Fields) : Except ExprError Value :=
  match parseExpression source conditionDepth with
  | .error e => .error e
  | .ok e => e.eval .lenient (bindingsOfContext context)

/-- Whether a condition is true in a context. -/
def evaluateCondition (source : String) (context : Fields) : Except ExprError Bool :=
  (evaluateSource source context).map Value.truthy

end Automation.Expr
