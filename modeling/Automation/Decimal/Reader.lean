import Automation.Decimal.Binary

/-!
# Reading decimal numbers

A decimal text is a sign, digits with a point before, between or after them, and an exponent, of
which only some digits have to be there. It stands for the double nearest to the number that it
writes.
-/

namespace Automation.Decimal

/-- The number that digits write. -/
def digitsToNat (digits : List Char) : Nat :=
  digits.foldl (fun n c => 10 * n + (c.toNat - 48)) 0

/-- Whether a text begins with a minus, and what follows its sign if it has one. -/
def signed : List Char → Bool × List Char
  | '+' :: rest => (false, rest)
  | '-' :: rest => (true, rest)
  | cs => (false, cs)

/-- The digits after the point that a text begins with, and what follows them. -/
def fraction : List Char → List Char × List Char
  | '.' :: rest => (rest.takeWhile Char.isDigit, rest.dropWhile Char.isDigit)
  | cs => ([], cs)

/-- The exponent that a text is, or zero where there is no text. -/
def exponent? : List Char → Option Int
  | [] => some 0
  | c :: rest =>
    if c = 'e' ∨ c = 'E' then
      let (down, digits) := signed rest
      if digits.isEmpty || !digits.all Char.isDigit then none
      else
        let n : Int := digitsToNat digits
        some (if down then -n else n)
    else none

/-- The number of a decimal text. Words for infinite numbers have no value either, so they need no
rule. -/
def read? (cs : List Char) : Option Float :=
  let (negative, cs) := signed cs
  let whole := cs.takeWhile Char.isDigit
  let (part, rest) := fraction (cs.dropWhile Char.isDigit)
  if whole.isEmpty && part.isEmpty then none
  else
    (exponent? rest).map fun exponent =>
      nearestDecimal negative (digitsToNat (whole ++ part)) (exponent - part.length)

end Automation.Decimal
