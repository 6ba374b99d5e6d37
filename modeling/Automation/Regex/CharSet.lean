import Automation.Regex.CaseFolding
import Automation.Regex.Property
import Automation.Regex.Script
import Automation.Regex.ScriptExtension
import Automation.Text.Category

/-!
# Sets of characters

The sets that a regular expression names: ranges, Unicode properties and what can be made of
them. A set is kept as it is written, and `CharSet.has` decides membership from its parts.
-/

namespace Automation.Regex

open Automation.Text

/-- A set of characters. -/
inductive CharSet where
  | range (low high : Nat)
  /-- The boundaries of a property. -/
  | boundaries (list : List Nat)
  | complement (s : CharSet)
  | union (s t : CharSet)
  | intersection (s t : CharSet)
  | difference (s t : CharSet)
  | symmetricDifference (s t : CharSet)
  /-- The set with every character that differs from a member in case only. -/
  | folded (s : CharSet)

/-! ## Tables -/

/-- The classes of characters that differ in case only. -/
def foldingClasses : List (List Nat) :=
  foldingTable.flatMap fun line =>
    (wordsOf ' ' line.toList).map fun word => (wordsOf ',' word).map base36

/-- The boundaries of the decimal digits. -/
def digitBoundaries : List Nat := (findBoundaries? categoryTable "nd").getD []

/-- The boundaries of the blanks. -/
def spaceBoundaries : List Nat := (findBoundaries? propertyTable "whitespace").getD []

/-- The boundaries of the letters. -/
def letterBoundaries : List Nat := (findBoundaries? propertyTable "alphabetic").getD []

/-- The boundaries of the connecting punctuation. -/
def connectorBoundaries : List Nat := (findBoundaries? categoryTable "pc").getD []

/-- The boundaries of the join controls. -/
def joinControlBoundaries : List Nat := (findBoundaries? propertyTable "joincontrol").getD []

/-! ## Membership -/

namespace CharSet

/-- The characters that differ from a character in case only, itself included. -/
def caseVariants (n : Nat) : List Nat :=
  match foldingClasses.find? (·.contains n) with
  | some variants => variants
  | none => [n]

/-- Whether a code point is in the set. -/
def has : CharSet → Nat → Bool
  | range low high, n => decide (low ≤ n) && decide (n ≤ high)
  | boundaries list, n => InversionList.contains list n
  | complement s, n => !s.has n
  | union s t, n => s.has n || t.has n
  | intersection s t, n => s.has n && t.has n
  | difference s t, n => s.has n && !t.has n
  | symmetricDifference s t, n => s.has n != t.has n
  | folded s, n => (caseVariants n).any s.has

/-- The set of one character. -/
def single (c : Char) : CharSet := range c.toNat c.toNat

/-- The empty set. -/
def empty : CharSet := boundaries []

/-- The decimal digits. -/
def digits (unicode : Bool) : CharSet :=
  if unicode then boundaries digitBoundaries else range 0x30 0x39

/-- The blanks. -/
def spaces (unicode : Bool) : CharSet :=
  if unicode then boundaries spaceBoundaries else union (range 0x9 0xD) (range 0x20 0x20)

/-- The characters of words: letters, marks, decimal digits, connecting punctuation and the join
controls; without Unicode the ASCII letters and digits and the underscore. -/
def words (unicode : Bool) : CharSet :=
  let ascii := union (union (range 0x61 0x7A) (range 0x41 0x5A))
    (union (range 0x30 0x39) (range 0x5F 0x5F))
  if unicode then
    union ascii (union (boundaries letterBoundaries) (union (boundaries markBoundaries)
      (union (boundaries digitBoundaries)
        (union (boundaries connectorBoundaries) (boundaries joinControlBoundaries)))))
  else ascii

/-- An upper bound for the count of ranges of the set, for estimating the size of a program. -/
def rangeCount : CharSet → Nat
  | range _ _ => 1
  | boundaries list => list.length / 2
  | complement s => s.rangeCount + 1
  | union s t => s.rangeCount + t.rangeCount
  | intersection s t => s.rangeCount + t.rangeCount
  | difference s t => s.rangeCount + t.rangeCount
  | symmetricDifference s t => s.rangeCount + t.rangeCount
  | folded s => 2 * s.rangeCount

/-- The set of a named ASCII class. -/
def ofAsciiName? (name : String) : Option CharSet :=
  let lower := range 0x61 0x7A
  let upper := range 0x41 0x5A
  let digit := range 0x30 0x39
  if name = "alnum" then some (union digit (union lower upper))
  else if name = "alpha" then some (union lower upper)
  else if name = "ascii" then some (range 0 0x7F)
  else if name = "blank" then some (union (range 0x9 0x9) (range 0x20 0x20))
  else if name = "cntrl" then some (union (range 0 0x1F) (range 0x7F 0x7F))
  else if name = "digit" then some digit
  else if name = "graph" then some (range 0x21 0x7E)
  else if name = "lower" then some lower
  else if name = "print" then some (range 0x20 0x7E)
  else if name = "punct" then
    some (union (union (range 0x21 0x2F) (range 0x3A 0x40))
      (union (range 0x5B 0x60) (range 0x7B 0x7E)))
  else if name = "space" then some (union (range 0x9 0xD) (range 0x20 0x20))
  else if name = "upper" then some upper
  else if name = "word" then some (union (union digit (range 0x5F 0x5F)) (union lower upper))
  else if name = "xdigit" then
    some (union digit (union (range 0x61 0x66) (range 0x41 0x46)))
  else none

/-- A property name in the form of the tables: lower case, without blanks, underscores and
hyphens, and without a leading `is`. -/
def normalizeName (name : String) : String :=
  let cs := (name.toList.filter fun c => c ≠ ' ' && c ≠ '_' && c ≠ '-' && c.toNat < 128).map
    Char.toLower
  match cs with
  | ['i', 's', 'c'] => "isc"
  | 'i' :: 's' :: rest => if name.toList.length ≤ 2 then String.ofList cs else String.ofList rest
  | _ => String.ofList cs

/-- The set of a general category. -/
def ofCategory? (name : String) : Option CharSet :=
  if name = "any" then some (range 0 0x10FFFF)
  else if name = "assigned" then
    ((findBoundaries? categoryTable "cn").map boundaries).map complement
  else if name = "ascii" then some (range 0 0x7F)
  else (findBoundaries? categoryTable name).map boundaries

/-- The set of a property that stands alone: a binary property, a general category or a script,
in this order. Three short names are categories first. -/
def ofName? (name : String) : Option CharSet :=
  let name := normalizeName name
  let property :=
    if name = "cf" ∨ name = "sc" ∨ name = "lc" then none else findBoundaries? propertyTable name
  match property with
  | some list => some (boundaries list)
  | none =>
    match ofCategory? name with
    | some s => some s
    | none => (findBoundaries? scriptTable name).map boundaries

/-- The set of a property with a value. -/
def ofNameAndValue? (name value : String) : Option CharSet :=
  let name := normalizeName name
  let value := normalizeName value
  if name = "gc" ∨ name = "generalcategory" then ofCategory? value
  else if name = "sc" ∨ name = "script" then (findBoundaries? scriptTable value).map boundaries
  else if name = "scx" ∨ name = "scriptextensions" then
    (findBoundaries? scriptExtensionTable value).map boundaries
  else none

end CharSet

end Automation.Regex
