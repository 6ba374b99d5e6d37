import Automation.Value.Basic

/-!
# Decoding records

Typed readers of values. A record is an object, or an array with the fields in their declared
order. A field that occurs twice is refused, a field with a default may be missing, and only an
optional field may be null. Fields that the record does not name are ignored.
-/

namespace Automation

namespace Value

/-- A text. -/
def asString? : Value → Option String
  | .string s => some s
  | _ => none

/-- A truth value. -/
def asBool? : Value → Option Bool
  | .bool b => some b
  | _ => none

/-- A natural number below a bound; a double is none, even an integral one. -/
def asNat? (bound : Nat) : Value → Option Nat
  | .number (.int n) => if 0 ≤ n ∧ n < bound then some n.toNat else none
  | _ => none

/-- A number as a double. -/
def asFloat? : Value → Option Float
  | .number n => some n.toFloat
  | _ => none

/-- An object with any fields, in normal form. -/
def asObject? (v : Value) : Option Fields :=
  match v.normalize with
  | .object fields => some fields
  | _ => none

/-- A list whose items all decode. -/
def asList? (decode : Value → Option α) : Value → Option (List α)
  | .array items => items.mapM decode
  | _ => none

/-- A name out of a fixed choice: the name itself, or an object with null under the name. -/
def asName? : Value → Option String
  | .string s => some s
  | .object [(name, .null)] => some name
  | _ => none

/-- A name out of a fixed choice where an empty object is as good as null: in what is kept until the
kind of a node is known, and in TOML, which has no null. -/
def asLooseName? : Value → Option String
  | .object [(name, .object [])] => some name
  | v => v.asName?

end Value

/-- The fields of a record that is being decoded. -/
abbrev Record := List (String × Value)

namespace Record

/-- The fields of an object, or the items of an array under the names of the record. -/
def ofValue? (names : List String) : Value → Option Record
  | .object fields => some fields
  | .array items => if items.length ≤ names.length then some (names.zip items) else none
  | _ => none

/-- The value of a field: `none` if it occurs twice, `some none` if it does not occur. -/
def field? (name : String) (record : Record) : Option (Option Value) :=
  match record.filter (fun field => field.1 == name) with
  | [] => some none
  | [(_, v)] => some (some v)
  | _ => none

/-- A field that has to be there. -/
def required (name : String) (decode : Value → Option α) (record : Record) : Option α :=
  match record.field? name with
  | some (some v) => decode v
  | _ => none

/-- A field with a default. -/
def withDefault (name : String) (decode : Value → Option α) (default : α) (record : Record) :
    Option α :=
  match record.field? name with
  | some (some v) => decode v
  | some none => some default
  | none => none

/-- A field that may be missing or null. -/
def optional (name : String) (decode : Value → Option α) (record : Record) : Option (Option α) :=
  match record.field? name with
  | some (some .null) => some none
  | some (some v) => (decode v).map some
  | some none => some none
  | none => none

end Record

/-- The field of an encoded option: nothing for `none`. -/
def optionalField (name : String) (encode : α → Value) : Option α → List (String × Value)
  | some a => [(name, encode a)]
  | none => []

end Automation
