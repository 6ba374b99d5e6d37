import Automation.Expr.Eval

/-!
# Assignment to a path

`storeAt keys value slot` stores a value below a slot, one key at a time. A null on the way becomes
an object, an object takes any key by its text, and an array takes a position up to its length;
at its length it grows. The slot is answered in either case: with a fault it is as far as the
path went.
-/

namespace Automation.Script

open Automation.Expr

/-- A slot after an assignment below it, and the fault that ended it early. -/
structure Stored where
  slot : Value
  fault : Option TypeFault

/-- Stores a value below a slot under keys that are already evaluated. -/
def storeAt (keys : List Value) (value slot : Value) : Stored :=
  match keys with
  | [] => ⟨value, none⟩
  | key :: keys =>
    match slot with
    | .null =>
      let inner := storeAt keys value .null
      ⟨.object [(key.display, inner.slot)], inner.fault⟩
    | .object fields =>
      let inner := storeAt keys value ((Fields.get? key.display fields).getD .null)
      ⟨.object (Fields.insert key.display inner.slot fields), inner.fault⟩
    | .array items =>
      match key with
      | .number n =>
        match n.toNat? with
        | some i =>
          if i < items.length then
            let inner := storeAt keys value (items[i]?.getD .null)
            ⟨.array (items.set i inner.slot), inner.fault⟩
          else if i = items.length then
            let inner := storeAt keys value .null
            ⟨.array (items ++ [inner.slot]), inner.fault⟩
          else ⟨slot, some (.outOfBounds n.text)⟩
        | none => ⟨slot, some (.outOfBounds n.text)⟩
      | key => ⟨slot, some (.setProperty key.display slot.typeName)⟩
    | slot => ⟨slot, some (.setProperty key.display slot.typeName)⟩

/-- The variables after an assignment, and its error. The variable has to exist. -/
def assignPath (vars : Fields) (name : String) (keys : List Value) (value : Value) :
    Except ExprError Unit × Fields :=
  match Fields.get? name vars with
  | none => (.error (.undefined name), vars)
  | some slot =>
    let stored := storeAt keys value slot
    let vars := Fields.insert name stored.slot vars
    match stored.fault with
    | none => (.ok (), vars)
    | some fault => (.error (.mistyped fault), vars)

/-- The keys of a path, evaluated from left to right. -/
def pathKeys [Regex.Library] (vars : Fields) : List PathSegment → Except ExprError (List Value)
  | [] => .ok []
  | .field name :: rest =>
    match pathKeys vars rest with
    | .error e => .error e
    | .ok keys => .ok (.string name :: keys)
  | .index e :: rest =>
    match e.eval .strict vars with
    | .error err => .error err
    | .ok key =>
      match pathKeys vars rest with
      | .error err => .error err
      | .ok keys => .ok (key :: keys)

end Automation.Script
