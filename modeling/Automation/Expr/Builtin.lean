import Automation.Decimal.Reader
import Automation.Expr.Error
import Automation.Regex.Library
import Automation.Text.Blank
import Automation.Text.Case
import Automation.Text.Split
import Automation.Value.Text

/-!
# Built-in functions

The functions that conditions and scripts can call. Most have two spellings. A function checks its
arguments from left to right, and its errors name it as the call spells it.
-/

namespace Automation.Expr

/-- A function that can be called. -/
inductive Builtin where
  | len
  | contains
  | startsWith
  | endsWith
  | lower
  | upper
  | trim
  | number
  | string
  | bool
  | isNull
  | keys
  | values
  | isMatch
  | abs
  | round
  | floor
  | ceil
  | min
  | max
  | join
  | split
  | push
  deriving Repr, DecidableEq

namespace Builtin

/-- Every spelling with its function. -/
def spellings : List (String × Builtin) :=
  [("len", len), ("length", len), ("contains", contains), ("includes", contains),
    ("starts_with", startsWith), ("startsWith", startsWith), ("ends_with", endsWith),
    ("endsWith", endsWith), ("lower", lower), ("toLowerCase", lower), ("upper", upper),
    ("toUpperCase", upper), ("trim", trim), ("number", number), ("string", string),
    ("toString", string), ("bool", bool), ("is_null", isNull), ("keys", keys),
    ("values", values), ("matches", isMatch), ("abs", abs), ("min", min), ("max", max),
    ("round", round), ("floor", floor), ("ceil", ceil), ("join", join), ("split", split),
    ("push", push)]

/-- The function of a spelling. -/
def ofSpelling? (spelling : String) : Option Builtin :=
  (spellings.find? (fun entry => entry.1 == spelling)).map (·.2)

/-! ## Arguments -/

/-- The argument at a position, counted from zero. -/
def argument (function : String) (args : List Value) (i : Nat) : Except ExprError Value :=
  match args[i]? with
  | some v => .ok v
  | none => .error (.mistyped (.tooFewArguments function (i + 1)))

/-- The error of an argument of the wrong kind. -/
def wrongKind (function expected : String) (got : Value) : ExprError :=
  .mistyped (.argument function expected got.typeName)

/-- The text at a position. -/
def textArgument (function : String) (args : List Value) (i : Nat) : Except ExprError String :=
  match argument function args i with
  | .ok (.string s) => .ok s
  | .ok v => .error (wrongKind function "string" v)
  | .error e => .error e

/-- The number at the first position. -/
def numberArgument (function : String) (args : List Value) : Except ExprError Float :=
  match argument function args 0 with
  | .ok (.number n) => .ok n.toFloat
  | .ok v => .error (wrongKind function "number" v)
  | .error e => .error e

/-- The numbers of a list of values. -/
def numbersOf (function : String) : List Value → Except ExprError (List Float)
  | [] => .ok []
  | .number n :: rest => (numbersOf function rest).map (n.toFloat :: ·)
  | v :: _ => .error (wrongKind function "number" v)

/-- The numbers that are the arguments, or the items of the only argument. -/
def numberArguments (function : String) (args : List Value) : Except ExprError (List Float) :=
  match args with
  | [.array items] => numbersOf function items
  | _ => numbersOf function args

/-- The smaller of two numbers. -/
def smaller (x y : Float) : Float :=
  if y < x then y else x

/-- The larger of two numbers. -/
def larger (x y : Float) : Float :=
  if x < y then y else x

/-- The number that is chosen from a list; null for none. -/
def choose (pick : Float → Float → Float) : List Float → Value
  | [] => .null
  | x :: rest => Value.ofFloat (rest.foldl pick x)

/-! ## Numbers in texts -/

/-- The number that a value stands for; null if it stands for none. -/
def toNumber : Value → Value
  | .number n => Value.ofFloat n.toFloat
  | .string s =>
    match Decimal.read? (Text.trimChars s.toList) with
    | some x => Value.ofFloat x
    | none => .null
  | .bool b => Value.ofNat (if b then 1 else 0)
  | .null => Value.ofNat 0
  | _ => .null

/-! ## Calls -/

/-- Whether a value contains another: a text an inner text, an array an equal item, an object a
key. Null contains nothing. -/
def containsValue (function : String) (haystack needle : Value) : Except ExprError Bool :=
  match haystack with
  | .string s => .ok (Text.contains s needle.display)
  | .array items => .ok (items.any fun item => item.looseEq needle)
  | .object fields => .ok (Fields.has needle.display fields)
  | .null => .ok false
  | v => .error (wrongKind function "string, array or object" v)

/-- Whether a regular expression matches in a text. -/
def matchPattern [Regex.Library] (pattern text : String) : Except ExprError Bool :=
  match Regex.Library.compile pattern with
  | .ok matchesIn => .ok (matchesIn text)
  | .error reason => .error (@ExprError.badPattern reason)

/-- The value of a function of one text. -/
def onText (f : String → String) (function : String) (args : List Value) :
    Except ExprError Value :=
  (textArgument function args 0).map fun s => .string (f s)

/-- The value of a test on two texts. -/
def onTexts (f : String → String → Bool) (function : String) (args : List Value) :
    Except ExprError Value := do
  let s ← textArgument function args 0
  let t ← textArgument function args 1
  pure (.bool (f s t))

/-- The value of a function of one number. -/
def onNumber (f : Float → Float) (function : String) (args : List Value) :
    Except ExprError Value :=
  (numberArgument function args).map fun x => Value.ofFloat (f x)

/-- The items of the array at the first position. -/
def arrayArgument (function : String) (args : List Value) : Except ExprError (List Value) :=
  match argument function args 0 with
  | .ok (.array items) => .ok items
  | .ok v => .error (wrongKind function "array" v)
  | .error e => .error e

/-- The fields of the object at the first position. -/
def objectArgument (function : String) (args : List Value) : Except ExprError Fields :=
  match argument function args 0 with
  | .ok (.object fields) => .ok fields
  | .ok v => .error (wrongKind function "object" v)
  | .error e => .error e

/-- The separator of a join: the second argument, or a comma. -/
def separatorArgument (function : String) (args : List Value) : Except ExprError String :=
  match (args[1]? : Option Value) with
  | some (.string s) => .ok s
  | some v => .error (wrongKind function "string separator" v)
  | none => .ok ","

/-- Applies a function to arguments. `function` is its spelling in the call. -/
def apply [Regex.Library] (function : String) (args : List Value) : Builtin → Except ExprError Value
  | len =>
    match argument function args 0 with
    | .error e => .error e
    | .ok v =>
      match v.length? with
      | some n => .ok (Value.ofNat n)
      | none => .error (wrongKind function "string, array or object" v)
  | contains => do
    let haystack ← argument function args 0
    let needle ← argument function args 1
    let found ← containsValue function haystack needle
    pure (.bool found)
  | startsWith => onTexts Text.startsWith function args
  | endsWith => onTexts Text.endsWith function args
  | lower => onText Text.lowercase function args
  | upper => onText Text.uppercase function args
  | trim => onText Text.trim function args
  | number => (argument function args 0).map toNumber
  | string => (argument function args 0).map fun v => .string v.display
  | bool => (argument function args 0).map fun v => .bool v.truthy
  | isNull =>
    (argument function args 0).map fun v =>
      match v with
      | .null => .bool true
      | _ => .bool false
  | keys =>
    (objectArgument function args).map fun fields => .array (fields.map fun f => .string f.1)
  | values => (objectArgument function args).map fun fields => .array (fields.map (·.2))
  | isMatch => do
    let v ← argument function args 0
    let pattern ← textArgument function args 1
    let found ← matchPattern pattern v.display
    pure (.bool found)
  | abs => onNumber Float.abs function args
  | round => onNumber Float.round function args
  | floor => onNumber Float.floor function args
  | ceil => onNumber Float.ceil function args
  | min => (numberArguments function args).map (choose smaller)
  | max => (numberArguments function args).map (choose larger)
  | join => do
    let items ← arrayArgument function args
    let separator ← separatorArgument function args
    pure (.string (Text.join separator (items.map Value.display)))
  | split => do
    let s ← textArgument function args 0
    let separator ← textArgument function args 1
    pure (.array ((Text.split separator s).map .string))
  | push => (arrayArgument function args).map fun items => .array (items ++ args.drop 1)

/-- Whether a name can be called. -/
def isBuiltin (name : String) : Bool :=
  (ofSpelling? name).isSome

/-- Calls the function of a name. -/
def call [Regex.Library] (name : String) (args : List Value) : Except ExprError Value :=
  match ofSpelling? name with
  | some f => f.apply name args
  | none => .error (.unknownFunction name)

end Builtin

end Automation.Expr
