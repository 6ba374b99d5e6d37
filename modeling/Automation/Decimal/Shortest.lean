import Automation.Decimal.Binary

/-!
# Shortest decimal digits

The digits written for a double are the fewest that read back as the same double and, of those,
the ones nearest to it. The reals that read back form an interval around the value, which holds
its ends exactly when the significand is even. On the grid of numbers with a given count of
digits only the two neighbours of the value can be nearest, so each count needs two tests.
-/

namespace Automation.Decimal

/-- The number `digits · 10^exponent`. -/
structure Digits where
  digits : Nat
  exponent : Int
  deriving Repr, DecidableEq

/-- What happens to a value that lies exactly between two candidates. -/
inductive Tie where
  | toEven
  | up
  deriving Repr, DecidableEq

/-- The count of decimal digits; none for zero. -/
def digitCount (n : Nat) : Nat :=
  if n = 0 then 0 else (Nat.toDigits 10 n).length

/-- The exponent of the leading decimal digit of `num / den`, for positive operands. -/
def leadingExponent (num den : Nat) : Int :=
  if den ≤ num then (digitCount (num / den) : Int) - 1
  else -(digitCount ((den + num - 1) / num - 1) : Int)

/-- A quotient with the interval of reals that round to it, over a common denominator. -/
structure Rounding where
  low : Nat
  value : Nat
  high : Nat
  den : Nat
  closed : Bool

/-- The interval of the reals that round to a positive double. The gap below a power of two is
half as wide. -/
def Rounding.ofBinary (b : Binary) : Rounding :=
  let below := if b.significand = Nat.pow 2 52 && decide (Binary.minExponent < b.exponent) then 1 else 2
  let m := 4 * b.significand
  let closed := b.significand % 2 == 0
  match b.exponent with
  | .ofNat k => ⟨(m - below) * Nat.pow 2 k, m * Nat.pow 2 k, (m + 2) * Nat.pow 2 k, 4, closed⟩
  | .negSucc k => ⟨m - below, m, m + 2, 4 * Nat.pow 2 (k + 1), closed⟩

/-- Whether the number `d · 10^step` rounds to the value. -/
def Rounding.holds (r : Rounding) (d : Nat) (step : Int) : Bool :=
  let (scaled, den) : Nat × Nat :=
    match step with
    | .ofNat k => (d * Nat.pow 10 k * r.den, 1)
    | .negSucc k => (d * r.den, Nat.pow 10 (k + 1))
  if r.closed then decide (r.low * den ≤ scaled) && decide (scaled ≤ r.high * den)
  else decide (r.low * den < scaled) && decide (scaled < r.high * den)

/-- The candidate on the grid `10^step` that rounds to the value and is nearest to it. -/
def Rounding.candidate (r : Rounding) (tie : Tie) (step : Int) : Option Nat :=
  let (num, den) : Nat × Nat :=
    match step with
    | .ofNat k => (r.value, r.den * Nat.pow 10 k)
    | .negSucc k => (r.value * Nat.pow 10 (k + 1), r.den)
  let down := num / den
  let rest := num % den
  let upNearer := decide (den < 2 * rest) ||
    (2 * rest == den && (tie == .up || down % 2 == 1))
  match r.holds down step, r.holds (down + 1) step with
  | true, true => some (if upNearer then down + 1 else down)
  | true, false => some down
  | false, true => some (down + 1)
  | false, false => none

/-- Tries grids of more and more digits. -/
def Rounding.search (r : Rounding) (tie : Tie) (leading : Int) : Nat → Nat → Digits
  | 0, count => ⟨(r.candidate tie (leading + 1 - count)).getD 0, leading + 1 - count⟩
  | left + 1, count =>
    match r.candidate tie (leading + 1 - count) with
    | some d => ⟨d, leading + 1 - count⟩
    | none => r.search tie leading left (count + 1)

/-- Moves trailing zeros of the digits into the exponent. -/
def Digits.normalize : Nat → Digits → Digits
  | 0, d => d
  | fuel + 1, d =>
    if d.digits ≠ 0 ∧ d.digits % 10 = 0 then
      Digits.normalize fuel ⟨d.digits / 10, d.exponent + 1⟩
    else d

/-- The shortest digits of the absolute value of a finite double other than zero. Seventeen
digits always suffice. -/
def shortest (tie : Tie) (b : Binary) : Digits :=
  let r := Rounding.ofBinary b
  let found := r.search tie (leadingExponent r.value r.den) 16 1
  found.normalize (digitCount found.digits)

end Automation.Decimal
