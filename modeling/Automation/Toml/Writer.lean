import Automation.Toml.Text

/-!
# Writing TOML

A document with one level of tables: a header for each, its fields, and an empty line between two.
An array of two or more items has an item on every line.
-/

namespace Automation.Toml

/-- A field of a table that is written. -/
inductive Entry where
  | bool (b : Bool)
  | number (n : Nat)
  | text (s : String)
  | texts (items : List String)
  deriving Repr, DecidableEq

namespace Entry

/-- The text of an array. -/
def arrayText (items : List String) : String :=
  match items with
  | [] => "[]"
  | [s] => "[" ++ writeString s ++ "]"
  | _ => "[\n" ++ String.join (items.map fun s => "    " ++ writeString s ++ ",\n") ++ "]"

/-- The text of a field's value. -/
def valueText : Entry → String
  | bool b => toString b
  | number n => toString n
  | text s => writeString s
  | texts items => arrayText items

end Entry

/-- The text of a table. -/
def tableText (name : String) (fields : List (String × Entry)) : String :=
  "[" ++ name ++ "]\n" ++
    String.join (fields.map fun field => field.1 ++ " = " ++ field.2.valueText ++ "\n")

/-- The text of a document. -/
def documentText (tables : List (String × List (String × Entry))) : String :=
  "\n".intercalate (tables.map fun table => tableText table.1 table.2)

end Automation.Toml
