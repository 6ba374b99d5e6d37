/-!
# Internet addresses

Addresses of version 4 in their many spellings, and addresses of version 6. A host whose last part
is a number has to be an address of version 4.
-/

namespace Automation.Web

/-- The parts between separators; a text without one is one part. -/
def partsOf (separator : Char) (text : List Char) : List (List Char) :=
  text.foldr (fun c parts =>
    if c = separator then [] :: parts
    else
      match parts with
      | [] => [[c]]
      | part :: rest => (c :: part) :: rest) [[]]

/-- The value of a digit in a base of at most 16. -/
def digitValue? (base : Nat) (c : Char) : Option Nat :=
  let value :=
    if '0' ≤ c ∧ c ≤ '9' then some (c.toNat - 0x30)
    else if 'a' ≤ c ∧ c ≤ 'f' then some (c.toNat - 0x61 + 10)
    else if 'A' ≤ c ∧ c ≤ 'F' then some (c.toNat - 0x41 + 10)
    else none
  value.filter fun v => v < base

/-- The number that digits write; none of them may be left over. -/
def readNumber? (base : Nat) (digits : List Char) : Option Nat :=
  digits.foldl (fun n c => n.bind fun n => (digitValue? base c).map (base * n + ·)) (some 0)

namespace Ipv4

/-- The number that a part writes: in base 16 after `0x`, in base 8 after `0`. A base without
digits is zero. -/
def part? (part : List Char) : Option Nat :=
  match part with
  | [] => none
  | '0' :: 'x' :: rest => readNumber? 16 rest
  | '0' :: 'X' :: rest => readNumber? 16 rest
  | '0' :: c :: rest => readNumber? 8 (c :: rest)
  | digits => readNumber? 10 digits

/-- The parts of a host without an empty last one. -/
def hostParts (host : List Char) : List (List Char) :=
  let parts := partsOf '.' host
  if parts.getLast? = some [] then parts.dropLast else parts

/-- Whether a host has to be an address. -/
def endsInNumber (host : List Char) : Bool :=
  match (hostParts host).getLast? with
  | some last => (!last.isEmpty && last.all Char.isDigit) || (part? last).isSome
  | none => false

/-- The address of the numbers of its parts. The last one fills what the others leave. -/
def ofNumbers? (numbers : List Nat) : Option Nat :=
  match numbers.reverse with
  | [] => none
  | last :: others =>
    if numbers.length ≤ 4 ∧ others.all (· ≤ 255) ∧ last < Nat.pow 256 (5 - numbers.length) then
      some (others.reverse.foldl (fun n b => 256 * n + b) 0 * Nat.pow 256 (5 - numbers.length) + last)
    else none

/-- Reads an address. -/
def read? (host : List Char) : Option Nat :=
  ((hostParts host).mapM part?).bind ofNumbers?

/-- Writes an address as four decimal numbers. -/
def write (address : Nat) : String :=
  ".".intercalate ([3, 2, 1, 0].map fun i => toString (address / Nat.pow 256 i % 256))

end Ipv4

namespace Ipv6

/-- A decimal number of an embedded address: at most 255, without leading zeros. -/
def decimal? (digits : List Char) : Option Nat :=
  match digits with
  | [] => none
  | '0' :: _ :: _ => none
  | digits => (readNumber? 10 digits).filter (· ≤ 255)

/-- The two pieces of an embedded address of version 4. -/
def embedded? (text : List Char) : Option (List Nat) :=
  match (partsOf '.' text).mapM decimal? with
  | some [a, b, c, d] => some [256 * a + b, 256 * c + d]
  | _ => none

/-- A piece: one to four hexadecimal digits. -/
def piece? (digits : List Char) : Option Nat :=
  if digits.isEmpty ∨ 4 < digits.length then none else readNumber? 16 digits

/-- The pieces of a part of an address without a gap. Only its end may be an embedded address. -/
def pieces? (embeds : Bool) : List (List Char) → Option (List Nat)
  | [] => some []
  | [last] =>
    if embeds ∧ last.contains '.' then embedded? last else (piece? last).map ([·])
  | part :: rest => do
    let p ← piece? part
    let ps ← pieces? embeds rest
    pure (p :: ps)

/-- The pieces of one side of a gap. -/
def side? (embeds : Bool) (text : List Char) : Option (List Nat) :=
  if text.isEmpty then some [] else pieces? embeds (partsOf ':' text)

/-- The texts before and behind the first gap, which two colons mark. -/
def splitGap : List Char → Option (List Char × List Char)
  | ':' :: ':' :: rest => some ([], rest)
  | c :: rest => (splitGap rest).map fun sides => (c :: sides.1, sides.2)
  | [] => none

/-- Reads an address: eight pieces, or fewer around a gap of zeros. -/
def read? (text : List Char) : Option (List Nat) :=
  match splitGap text with
  | none => (pieces? true (partsOf ':' text)).filter fun ps => ps.length == 8
  | some (before, behind) => do
    let left ← side? false before
    let right ← side? true behind
    if left.length + right.length ≤ 7 then
      pure (left ++ List.replicate (8 - left.length - right.length) 0 ++ right)
    else none

/-- The number of zeros at the beginning. -/
def zeros (pieces : List Nat) : Nat := (pieces.takeWhile (· = 0)).length

/-- The first of the longest runs of zeros: where it begins and its length. -/
def longestGap (pieces : List Nat) : Nat × Nat :=
  (List.range 8).foldl (fun best i =>
    let n := zeros (pieces.drop i)
    if best.2 < n then (i, n) else best) (0, 0)

/-- A piece in hexadecimal digits. -/
def writePiece (n : Nat) : String := String.ofList (Nat.toDigits 16 n)

/-- Pieces between colons. -/
def writePieces (pieces : List Nat) : String := ":".intercalate (pieces.map writePiece)

/-- Writes an address. The longest run of two or more zeros is a gap. -/
def write (pieces : List Nat) : String :=
  let gap := longestGap pieces
  if gap.2 < 2 then writePieces pieces
  else writePieces (pieces.take gap.1) ++ "::" ++ writePieces (pieces.drop (gap.1 + gap.2))

end Ipv6

end Automation.Web
