import Automation.Decimal.Binary

/-!
# Values

The dynamic values that conditions, scripts, node results and request bodies work on: JSON values.
A number is an integer or a double. The fields of an object are kept in increasing order of their
keys, compared code point by code point; `Fields.insert` keeps that order and `Fields.get?` sees
only the last value stored under a key.
-/

namespace Automation

/-- A number. Integers lie between `-2^63` and `2^64 - 1`; doubles are finite. -/
inductive Number where
  | int (n : Int)
  | float (x : Float)

/-- A JSON value. -/
inductive Value where
  | null
  | bool (b : Bool)
  | number (n : Number)
  | string (s : String)
  | array (items : List Value)
  | object (fields : List (String × Value))

instance : Inhabited Value := ⟨.null⟩

/-- The fields of an object, in increasing order of their keys. -/
abbrev Fields := List (String × Value)

namespace Number

/-- The double nearest to the number. -/
def toFloat : Number → Float
  | .int n => Decimal.nearest (decide (n < 0)) n.natAbs 1
  | .float x => x

/-- Integers equal integers and doubles equal doubles; an integer is no double. -/
protected def beq : Number → Number → Bool
  | .int a, .int b => a == b
  | .float a, .float b => a == b
  | _, _ => false

instance : BEq Number := ⟨Number.beq⟩

/-- The integer, if it is one that counts. -/
def toNat? : Number → Option Nat
  | .int n => if 0 ≤ n then some n.toNat else none
  | .float _ => none

end Number

namespace Fields

/-- The value under a key. -/
def get? (key : String) : List (String × α) → Option α
  | [] => none
  | (k, v) :: rest => if k = key then some v else get? key rest

/-- Stores a value under a key, in place of the old one or where the order of keys puts it. -/
def insert (key : String) (value : α) : List (String × α) → List (String × α)
  | [] => [(key, value)]
  | (k, v) :: rest =>
    if k = key then (key, value) :: rest
    else if key < k then (key, value) :: (k, v) :: rest
    else (k, v) :: insert key value rest

/-- The fields without those under a key. -/
def erase (key : String) (fields : List (String × α)) : List (String × α) :=
  fields.filter (fun field => field.1 ≠ key)

/-- Whether a key has a value. -/
def has (key : String) (fields : List (String × α)) : Bool :=
  (get? key fields).isSome

/-- Stores pairs one after another. -/
def insertAll (fields : List (String × α)) (pairs : List (String × α)) : List (String × α) :=
  pairs.foldl (fun acc pair => insert pair.1 pair.2 acc) fields

/-- The fields that pairs describe; of two pairs with one key the later counts. -/
def ofPairs (pairs : List (String × α)) : List (String × α) :=
  insertAll [] pairs

@[simp] theorem get?_nil (key : String) : get? key ([] : List (String × α)) = none := rfl

@[simp] theorem get?_insert_self (key : String) (value : α) (fields : List (String × α)) :
    get? key (insert key value fields) = some value := by
  induction fields with
  | nil => simp [insert, get?]
  | cons field rest ih =>
    obtain ⟨k, v⟩ := field
    simp only [insert]
    split
    · simp [get?]
    · rename_i h
      split
      · simp [get?]
      · simp [get?, h, ih]

theorem get?_insert_of_ne {key other : String} (h : other ≠ key) (value : α)
    (fields : List (String × α)) : get? other (insert key value fields) = get? other fields := by
  induction fields with
  | nil => simp [insert, get?, Ne.symm h]
  | cons field rest ih =>
    obtain ⟨k, v⟩ := field
    simp only [insert]
    split
    · rename_i hk
      subst hk
      simp [get?, Ne.symm h]
    · split
      · simp [get?, Ne.symm h]
      · simp [get?, ih]

theorem get?_insert (key other : String) (value : α) (fields : List (String × α)) :
    get? other (insert key value fields) = if other = key then some value else get? other fields := by
  by_cases h : other = key
  · simp [h]
  · simp [h, get?_insert_of_ne h]

end Fields

namespace Value

/-- The value of a text. -/
def ofString (s : String) : Value := .string s

/-- The value of a count. -/
def ofNat (n : Nat) : Value := .number (.int n)

/-- The value of a double: an integer if it is integral and below `2^53` in size, null if it is
not finite. -/
def ofFloat (x : Float) : Value :=
  if x.floor == x && x.abs < 9007199254740992.0 then .number (.int x.toInt64.toInt)
  else if x.isFinite then .number (.float x)
  else .null

mutual

/-- Structural equality. -/
protected def beq : Value → Value → Bool
  | .null, .null => true
  | .bool a, .bool b => a == b
  | .number a, .number b => a == b
  | .string a, .string b => a == b
  | .array a, .array b => Value.beqItems a b
  | .object a, .object b => Value.beqFields a b
  | _, _ => false

/-- Structural equality of items. -/
protected def beqItems : List Value → List Value → Bool
  | [], [] => true
  | a :: as, b :: bs => Value.beq a b && Value.beqItems as bs
  | _, _ => false

/-- Structural equality of fields. -/
protected def beqFields : List (String × Value) → List (String × Value) → Bool
  | [], [] => true
  | (k, a) :: as, (l, b) :: bs => k == l && Value.beq a b && Value.beqFields as bs
  | _, _ => false

end

instance : BEq Value := ⟨Value.beq⟩

mutual

/-- The value with the fields of every object in order, the last of several with one key kept. -/
def normalize : Value → Value
  | .array items => .array (normalizeItems items)
  | .object fields => .object (normalizeFields [] fields)
  | .null => .null
  | .bool b => .bool b
  | .number n => .number n
  | .string s => .string s

/-- The items in normal form. -/
def normalizeItems : List Value → List Value
  | [] => []
  | v :: rest => normalize v :: normalizeItems rest

/-- The fields in normal form, stored over earlier ones. -/
def normalizeFields (earlier : Fields) : List (String × Value) → Fields
  | [] => earlier
  | (k, v) :: rest => normalizeFields (Fields.insert k (normalize v) earlier) rest

end

/-- The name of the kind of a value, as messages give it. -/
def typeName : Value → String
  | .null => "null"
  | .bool _ => "boolean"
  | .number _ => "number"
  | .string _ => "string"
  | .array _ => "array"
  | .object _ => "object"

/-- Whether a condition counts the value as true: null, false, zero and the empty text do not. -/
def truthy : Value → Bool
  | .null => false
  | .bool b => b
  | .number n => let x := n.toFloat; x != 0.0 && !x.isNaN
  | .string s => s ≠ ""
  | .array _ => true
  | .object _ => true

/-- The double of a number. -/
def toFloat? : Value → Option Float
  | .number n => some n.toFloat
  | _ => none

/-- Equality as expressions see it: numbers by value, anything else by structure. -/
def looseEq : Value → Value → Bool
  | .number a, .number b => a.toFloat == b.toFloat
  | a, b => a == b

/-- The count of characters, items or fields. -/
def length? : Value → Option Nat
  | .string s => some s.length
  | .array items => some items.length
  | .object fields => some fields.length
  | _ => none

end Value

end Automation
