/-!
# Inversion lists

A set of code points is written as the increasing list of its boundaries: the first number is in
the set, the second is the first one that is not, and so on. An odd length means that the last
range has no end. Long lists are written in base 36, as the distances between the boundaries.
-/

namespace Automation.Text.InversionList

/-- Membership in the set that the boundaries describe. -/
def contains : List Nat → Nat → Bool
  | low :: high :: rest, n => if n < high then decide (low ≤ n) else contains rest n
  | [low], n => decide (low ≤ n)
  | [], _ => false

end Automation.Text.InversionList

namespace Automation.Text

/-- The number that digits and lower-case letters write in base 36. -/
def base36 (s : List Char) : Nat :=
  s.foldl (fun n c => 36 * n + if c.isDigit then c.toNat - 48 else c.toNat - 87) 0

/-- The words between separators. -/
def wordsOf (separator : Char) (text : List Char) : List (List Char) :=
  text.foldr (fun c words =>
    if c = separator then [] :: words
    else
      match words with
      | [] => [[c]]
      | w :: rest => (c :: w) :: rest) [[]]

/-- The numbers that are the sums of the first numbers of a list. -/
def runningSums (start : Nat) : List Nat → List Nat
  | [] => []
  | n :: rest => (start + n) :: runningSums (start + n) rest

/-- The boundaries that a table entry writes on its lines. -/
def decodeBoundaries (lines : List String) : List Nat :=
  runningSums 0 (lines.flatMap fun line => (wordsOf ' ' line.toList).map base36)

/-- The boundaries under a name. -/
def findBoundaries? (table : List (List String × List String)) (name : String) : Option (List Nat) :=
  (table.find? (fun entry => entry.1.contains name)).map fun entry => decodeBoundaries entry.2

end Automation.Text
