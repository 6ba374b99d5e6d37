import Automation.Decimal.Shortest

/-!
# Written numbers

How the shortest digits of a double are laid out. A `Layout` records the decisions of one format;
two are in use: `jsonLayout` for values and `messageLayout` for numbers quoted in messages.
-/

namespace Automation.Decimal

/-- The decisions of a number format. A number whose leading digit stands at an exponent from
`lowest` to `highest` is written positionally with a point, any other with an exponent. -/
structure Layout where
  lowest : Int
  highest : Int
  exponentPlus : String
  tie : Tie
  notANumber : String
  infinity : String

/-- Numbers in JSON text: positional from `1e-5` below `1e16`, a positive exponent is marked. JSON
has no infinite numbers, they never reach this layout. -/
def jsonLayout : Layout := ⟨-5, 15, "e+", .toEven, "null", "null"⟩

/-- Numbers in messages: positional from `1e-4` below `1e16`, no mark on a positive exponent. -/
def messageLayout : Layout := ⟨-4, 15, "e", .up, "NaN", "inf"⟩

/-- The decimal digits of a number. -/
def digitChars (n : Nat) : List Char :=
  Nat.toDigits 10 n

/-- The digits with a point after the first `before` of them; at least one digit stands on either
side. -/
def positional (digits : List Char) (before : Int) : List Char :=
  match before with
  | .ofNat 0 => '0' :: '.' :: digits
  | .ofNat (k + 1) =>
    if digits.length ≤ k + 1 then
      digits ++ List.replicate (k + 1 - digits.length) '0' ++ ['.', '0']
    else digits.take (k + 1) ++ '.' :: digits.drop (k + 1)
  | .negSucc k => '0' :: '.' :: (List.replicate (k + 1) '0' ++ digits)

/-- The digits with a point after the first of them, if there are more. -/
def scientific (digits : List Char) : List Char :=
  match digits with
  | [] => []
  | [d] => [d]
  | d :: rest => d :: '.' :: rest

/-- The text of a double. -/
def Layout.write (layout : Layout) (x : Float) : String :=
  match Binary.ofFloat? x with
  | none =>
    if x.isNaN then layout.notANumber
    else if x < 0 then String.ofList ('-' :: layout.infinity.toList)
    else layout.infinity
  | some b =>
    let sign := if b.negative then ['-'] else []
    if b.significand = 0 then String.ofList (sign ++ ['0', '.', '0'])
    else
      let d := shortest layout.tie b
      let digits := digitChars d.digits
      let leading := d.exponent + digits.length - 1
      let body :=
        if layout.lowest ≤ leading ∧ leading ≤ layout.highest then positional digits (leading + 1)
        else
          match leading with
          | .ofNat k => scientific digits ++ layout.exponentPlus.toList ++ digitChars k
          | .negSucc k => scientific digits ++ ['e', '-'] ++ digitChars (k + 1)
      String.ofList (sign ++ body)

end Automation.Decimal
