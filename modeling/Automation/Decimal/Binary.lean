/-!
# Binary floating point, exactly

A finite double is a sign, a significand and a power of two. `Binary.ofFloat?` reads those parts
off the bits; `nearest` goes the other way and finds the double nearest to a quotient of natural
numbers, halves going to the even significand. Everything is exact arithmetic on `Nat`.
-/

namespace Automation.Decimal

/-- The value `(-1)^negative · significand · 2^exponent`. -/
structure Binary where
  negative : Bool
  significand : Nat
  exponent : Int
  deriving Repr, DecidableEq

namespace Binary

/-- The exponent of the smallest doubles. -/
def minExponent : Int := -1074

/-- The parts of a finite double; none for an infinity or a value that is not a number. -/
def ofFloat? (x : Float) : Option Binary :=
  let bits : Nat := x.toBits.toNat
  let negative := bits / Nat.pow 2 63 == 1
  let field : Nat := bits / Nat.pow 2 52 % 2048
  let fraction := bits % Nat.pow 2 52
  if field = 2047 then none
  else if field = 0 then some ⟨negative, fraction, minExponent⟩
  else some ⟨negative, Nat.pow 2 52 + fraction, minExponent + field - 1⟩

/-- The numerator and denominator of the absolute value. -/
def ratio (b : Binary) : Nat × Nat :=
  match b.exponent with
  | .ofNat k => (b.significand * Nat.pow 2 k, 1)
  | .negSucc k => (b.significand, Nat.pow 2 (k + 1))

end Binary

/-- A quotient rounded to the nearest natural number, halves to the even one. -/
def roundedQuotient (num den : Nat) : Nat :=
  let q := num / den
  let twice := 2 * (num % den)
  if twice < den then q
  else if den < twice then q + 1
  else if q % 2 = 0 then q else q + 1

/-- The largest `k` with `2^k ≤ num / den`, for positive operands. -/
def binaryOrder (num den : Nat) : Int :=
  let guess : Int := (num.log2 : Int) - den.log2
  let fits : Bool :=
    match guess with
    | .ofNat k => decide (den * Nat.pow 2 k ≤ num)
    | .negSucc k => decide (den ≤ num * Nat.pow 2 (k + 1))
  if fits then guess else guess - 1

/-- The bits of the double nearest to `num / den`, where `den` is positive. Beyond the largest
double this is infinity. -/
def nearestBits (num den : Nat) : Nat :=
  if num = 0 then 0
  else
    let exponent := max (binaryOrder num den - 52) Binary.minExponent
    let significand :=
      match exponent with
      | .ofNat k => roundedQuotient num (den * Nat.pow 2 k)
      | .negSucc k => roundedQuotient (num * Nat.pow 2 (k + 1)) den
    let field := (exponent - Binary.minExponent).toNat
    min (field * Nat.pow 2 52 + significand) (2047 * Nat.pow 2 52)

/-- The double of a sign and the bits of an absolute value. -/
def ofSignAndBits (negative : Bool) (bits : Nat) : Float :=
  Float.ofBits (UInt64.ofNat (if negative then Nat.pow 2 63 + bits else bits))

/-- The double nearest to `num / den`, negated on request. -/
def nearest (negative : Bool) (num den : Nat) : Float :=
  ofSignAndBits negative (nearestBits num den)

/-- Positive or negative infinity. -/
def infinite (negative : Bool) : Float :=
  ofSignAndBits negative (2047 * Nat.pow 2 52)

/-- The double nearest to `digits · 10^exponent`. A power of ten that is certain to overflow or
to vanish is not computed. -/
def nearestDecimal (negative : Bool) (digits : Nat) (exponent : Int) : Float :=
  let size : Int := (Nat.toDigits 10 digits).length
  if digits = 0 ∨ exponent + size < -400 then ofSignAndBits negative 0
  else if 400 < exponent + size then infinite negative
  else
    match exponent with
    | .ofNat k => nearest negative (digits * Nat.pow 10 k) 1
    | .negSucc k => nearest negative digits (Nat.pow 10 (k + 1))

/-- The remainder of a division that truncates, with the sign of the dividend. The result is
exact. It is not a number for an infinite dividend or a zero divisor. -/
def remainder (x y : Float) : Float :=
  match Binary.ofFloat? x with
  | none => 0.0 / 0.0
  | some a =>
    match Binary.ofFloat? y with
    | none => if y.isNaN then y else x
    | some b =>
      if b.significand = 0 then 0.0 / 0.0
      else
        let exponent := min a.exponent b.exponent
        let left := a.significand * Nat.pow 2 (a.exponent - exponent).toNat
        let right := b.significand * Nat.pow 2 (b.exponent - exponent).toNat
        let rest : Binary := ⟨a.negative, left % right, exponent⟩
        nearest rest.negative rest.ratio.1 rest.ratio.2

end Automation.Decimal
