/-!
# Punycode

The ASCII form of a label with other characters. The ASCII characters come first; the others follow
in increasing order as distances, each a number of variable length in base 36 whose digits have
thresholds that adapt to the distances so far. All texts are lists of code points.
-/

namespace Automation.Web.Punycode

/-- The digit of a value below 36. -/
def digit (d : Nat) : Nat := if d < 26 then 0x61 + d else 0x30 + (d - 26)

/-- The value of a digit, in either case. -/
def value? (n : Nat) : Option Nat :=
  if 0x61 ≤ n ∧ n ≤ 0x7A then some (n - 0x61)
  else if 0x41 ≤ n ∧ n ≤ 0x5A then some (n - 0x41)
  else if 0x30 ≤ n ∧ n ≤ 0x39 then some (n - 0x30 + 26)
  else none

/-- The threshold of the digit at a position, which is a multiple of 36. -/
def threshold (position bias : Nat) : Nat :=
  if position ≤ bias + 1 then 1 else if bias + 26 ≤ position then 26 else position - bias

theorem threshold_pos (position bias : Nat) : 0 < threshold position bias := by
  unfold threshold
  split
  · omega
  · split <;> omega

/-- The bias that a large distance leads to. -/
def shrink (distance position : Nat) : Nat :=
  if 455 < distance then shrink (distance / 35) (position + 36)
  else position + 36 * distance / (distance + 38)
termination_by distance
decreasing_by exact Nat.div_lt_self (by omega) (by decide)

/-- The bias after a distance, with the number of characters so far. -/
def adapt (distance count : Nat) (first : Bool) : Nat :=
  let halved := if first then distance / 700 else distance / 2
  shrink (halved + halved / count) 0

/-- The bias before the first distance. -/
def firstBias : Nat := 72

/-! ## Writing -/

/-- The digits of a distance from a position on. -/
def writeDistance (bias position distance : Nat) : List Nat :=
  let t := threshold position bias
  if distance < t then [digit distance]
  else
    digit (t + (distance - t) % (36 - t)) ::
      writeDistance bias (position + 36) ((distance - t) / (36 - t))
termination_by distance
decreasing_by
  have ht := threshold_pos position bias
  refine Nat.lt_of_le_of_lt (Nat.div_le_self _ _) ?_
  omega

/-- What is written so far, and the distance since. -/
structure Writing where
  out : List Nat
  distance : Nat
  bias : Nat
  /-- The number of characters that are written. -/
  count : Nat

/-- Passes a character of the label while the characters equal to `n` are written. -/
def Writing.pass (n basics : Nat) (w : Writing) (c : Nat) : Writing :=
  if c < n then { w with distance := w.distance + 1 }
  else if c = n then
    { out := w.out ++ writeDistance w.bias 36 w.distance
      distance := 0
      bias := adapt w.distance (w.count + 1) (w.count == basics)
      count := w.count + 1 }
  else w

/-- Writes the characters with the given code points, which increase. -/
def writeAll (label : List Nat) (basics : Nat) (w : Writing) (last : Nat) : List Nat → List Nat
  | [] => w.out
  | n :: rest =>
    let moved := { w with distance := w.distance + (n - last) * (w.count + 1) }
    let passed := label.foldl (Writing.pass n basics) moved
    writeAll label basics { passed with distance := passed.distance + 1 } (n + 1) rest

/-- Puts a number into an increasing list, once. -/
def insertOnce (n : Nat) : List Nat → List Nat
  | [] => [n]
  | m :: rest => if n < m then n :: m :: rest else if n = m then m :: rest else m :: insertOnce n rest

/-- The ASCII form of a label. -/
def encode (label : List Nat) : List Nat :=
  let basic := label.filter fun n => n < 0x80
  let others := (label.filter fun n => 0x80 ≤ n).foldr insertOnce []
  let start := if basic.isEmpty then [] else basic ++ [0x2D]
  writeAll label basic.length ⟨start, 0, firstBias, basic.length⟩ 0x80 others

/-! ## Reading -/

/-- What is read so far. A distance is being read from `position` on; it adds up in `sum`, and
`weight` is that of the next digit. -/
structure Reading where
  out : List Nat
  last : Nat
  bias : Nat
  /-- Where the last character was put, plus one. -/
  start : Nat
  sum : Nat
  weight : Nat
  position : Nat
  first : Bool

/-- Reads a digit. -/
def Reading.step (r : Reading) (d : Nat) : Option Reading :=
  let sum := r.sum + d * r.weight
  let t := threshold r.position r.bias
  if Nat.pow 2 32 ≤ sum then none
  else if t ≤ d then
    let weight := r.weight * (36 - t)
    if Nat.pow 2 32 ≤ weight then none else some { r with sum, weight, position := r.position + 36 }
  else
    let count := r.out.length + 1
    let n := r.last + sum / count
    let place := sum % count
    if n < 0xD800 ∨ (0xE000 ≤ n ∧ n < 0x110000) then
      some
        { out := r.out.take place ++ n :: r.out.drop place
          last := n
          bias := adapt (sum - r.start) count r.first
          start := place + 1
          sum := place + 1
          weight := 1
          position := 36
          first := false }
    else none

/-- Reads digits to their end. -/
def readAll (r : Reading) : List Nat → Option (List Nat)
  | [] => if r.position = 36 then some r.out else none
  | c :: rest =>
    match (value? c).bind r.step with
    | some r => readAll r rest
    | none => none

/-- The parts before and behind the last hyphen; without one everything is behind. -/
def splitLast (text : List Nat) : List Nat × List Nat :=
  let behind := (text.reverse.takeWhile fun n => n ≠ 0x2D).reverse
  let before := text.take (text.length - behind.length - 1)
  (before, if before.isEmpty then text else behind)

/-- The label of an ASCII form. -/
def decode (text : List Nat) : Option (List Nat) :=
  let parts := splitLast text
  if parts.1.all fun n => n < 0x80 then
    readAll ⟨parts.1, 0x80, firstBias, 0, 0, 1, 36, true⟩ parts.2
  else none

end Automation.Web.Punycode
