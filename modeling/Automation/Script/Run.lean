import Automation.Script.Assign

/-!
# Running scripts

A script runs on a copy of its bindings, in strict mode. Every statement and every round of a loop
takes a step, and a budget may bound the steps; without a budget the same rules give the meaning
of the script. The value of the first `return` is the result, and a script that runs to its end
has none.
-/

namespace Automation.Script

open Automation.Expr

/-- The bounds of a run. -/
structure Limits where
  /-- The largest count of steps. -/
  steps : Nat
  /-- The deepest nesting of blocks and expressions. -/
  depth : Nat
  deriving Repr, DecidableEq

/-- The state of a run: its variables, and the steps that it took. -/
structure Frame where
  vars : Fields
  steps : Nat

/-- How a statement ends: with the next one, or with the result of the script. -/
inductive Flow where
  | next
  | result (value : Value)

/-- What a statement answers, and the state it leaves. -/
abbrev Outcome := Except ExprError Flow × Frame

/-- Takes a step. -/
def tick (budget : Option Nat) (frame : Frame) : Except ExprError Unit × Frame :=
  let frame := { frame with steps := frame.steps + 1 }
  match budget with
  | some limit => if limit < frame.steps then (.error (.stepLimit limit), frame) else (.ok (), frame)
  | none => (.ok (), frame)

/-- The items that a loop visits: those of an array, the keys of an object, the characters of a
text. -/
def itemsOf (v : Value) : Except ExprError (List Value) :=
  match v with
  | .array items => .ok items
  | .object fields => .ok (fields.map fun field => .string field.1)
  | .string s => .ok (s.toList.map fun c => .string (String.singleton c))
  | v => .error (.mistyped (.iterate v.typeName))

/-- Runs a block once for each item, with a variable bound to it. -/
def forEach (budget : Option Nat) (name : String) (block : Frame → Outcome) :
    List Value → Frame → Outcome
  | [], frame => (.ok .next, frame)
  | item :: rest, frame =>
    match tick budget frame with
    | (.error e, frame) => (.error e, frame)
    | (.ok (), frame) =>
      match block { frame with vars := Fields.insert name item frame.vars } with
      | (.ok .next, frame) => forEach budget name block rest frame
      | ended => ended

/-- The text of a thrown value: the message of an object that has one, or the value itself. -/
def thrownText (v : Value) : String :=
  match v with
  | .object fields =>
    match Fields.get? "message" fields with
    | some message => message.display
    | none => v.display
  | v => v.display

variable [Regex.Library]

mutual

/-- Runs a statement. -/
def exec (budget : Option Nat) : Stmt → Frame → Outcome
  | .declare name value, frame =>
    match tick budget frame with
    | (.error e, frame) => (.error e, frame)
    | (.ok (), frame) =>
      match value.eval .strict frame.vars with
      | .error e => (.error e, frame)
      | .ok v => (.ok .next, { frame with vars := Fields.insert name v frame.vars })
  | .assign name path value, frame =>
    match tick budget frame with
    | (.error e, frame) => (.error e, frame)
    | (.ok (), frame) =>
      match value.eval .strict frame.vars with
      | .error e => (.error e, frame)
      | .ok v =>
        match pathKeys frame.vars path with
        | .error e => (.error e, frame)
        | .ok keys =>
          match assignPath frame.vars name keys v with
          | (.error e, vars) => (.error e, { frame with vars := vars })
          | (.ok (), vars) => (.ok .next, { frame with vars := vars })
  | .branch branches otherwise, frame =>
    match tick budget frame with
    | (.error e, frame) => (.error e, frame)
    | (.ok (), frame) =>
      match execBranches budget branches frame with
      | (.error e, frame) => (.error e, frame)
      | (.ok (some flow), frame) => (.ok flow, frame)
      | (.ok none, frame) => execOtherwise budget otherwise frame
  | .loop name items body, frame =>
    match tick budget frame with
    | (.error e, frame) => (.error e, frame)
    | (.ok (), frame) =>
      match items.eval .strict frame.vars with
      | .error e => (.error e, frame)
      | .ok v =>
        match itemsOf v with
        | .error e => (.error e, frame)
        | .ok items => forEach budget name (fun frame => execBlock budget body frame) items frame
  | .ret none, frame =>
    match tick budget frame with
    | (.error e, frame) => (.error e, frame)
    | (.ok (), frame) => (.ok (.result .null), frame)
  | .ret (some value), frame =>
    match tick budget frame with
    | (.error e, frame) => (.error e, frame)
    | (.ok (), frame) =>
      match value.eval .strict frame.vars with
      | .error e => (.error e, frame)
      | .ok v => (.ok (.result v), frame)
  | .throw value, frame =>
    match tick budget frame with
    | (.error e, frame) => (.error e, frame)
    | (.ok (), frame) =>
      match value.eval .strict frame.vars with
      | .error e => (.error e, frame)
      | .ok v => (.error (.thrown (thrownText v)), frame)
  | .expr value, frame =>
    match tick budget frame with
    | (.error e, frame) => (.error e, frame)
    | (.ok (), frame) =>
      match value.eval .strict frame.vars with
      | .error e => (.error e, frame)
      | .ok _ => (.ok .next, frame)

/-- Runs the statements of a block until one ends the script. -/
def execBlock (budget : Option Nat) : List Stmt → Frame → Outcome
  | [], frame => (.ok .next, frame)
  | s :: rest, frame =>
    match exec budget s frame with
    | (.ok .next, frame) => execBlock budget rest frame
    | ended => ended

/-- Runs the first branch whose condition is true; none if there is no such branch. -/
def execBranches (budget : Option Nat) :
    List (Term × List Stmt) → Frame → Except ExprError (Option Flow) × Frame
  | [], frame => (.ok none, frame)
  | (condition, body) :: rest, frame =>
    match condition.eval .strict frame.vars with
    | .error e => (.error e, frame)
    | .ok v =>
      if v.truthy then
        match execBlock budget body frame with
        | (.error e, frame) => (.error e, frame)
        | (.ok flow, frame) => (.ok (some flow), frame)
      else execBranches budget rest frame

/-- Runs the last block of a conditional statement, if it has one. -/
def execOtherwise (budget : Option Nat) : Option (List Stmt) → Frame → Outcome
  | none, frame => (.ok .next, frame)
  | some body, frame => execBlock budget body frame

end

/-- The result that a run ends with. -/
def Flow.value : Flow → Value
  | next => .null
  | result v => v

/-- Runs the statements of a script on bindings. -/
def runProgram (budget : Option Nat) (program : Program) (bindings : Fields) :
    Except ExprError Value × Frame :=
  match execBlock budget program ⟨bindings, 0⟩ with
  | (.error e, frame) => (.error e, frame)
  | (.ok flow, frame) => (.ok flow.value, frame)

/-- Reads a script and runs it on bindings, within limits. -/
def run (limits : Limits) (source : String) (bindings : Fields) : Except ExprError Value :=
  match parseProgram source limits.depth with
  | .error e => .error e
  | .ok program => (runProgram (some limits.steps) program bindings).1

end Automation.Script
