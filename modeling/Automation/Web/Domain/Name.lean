import Automation.Web.Domain.Direction
import Automation.Web.Domain.Joining
import Automation.Web.Domain.Mapping
import Automation.Web.Domain.Punycode

/-!
# Domain names

The ASCII form of a domain name. Its characters are mapped and composed, labels in ASCII form are
read, every label is checked, and labels with other characters are written in ASCII form. A name
that holds a character which hosts must not hold has no ASCII form.
-/

namespace Automation.Web.Domain

open Automation.Text

/-- What the ASCII form of a label begins with: `xn--`. -/
def asciiMark : List Nat := [0x78, 0x6E, 0x2D, 0x2D]

/-- Whether an ASCII character must not stand in a domain name. -/
def isForbidden (n : Nat) : Bool :=
  decide (n ≤ 0x20) || n == 0x7F || "%#/:<>?@[\\]^|".toList.any fun c => c.toNat == n

/-- The labels between dots. -/
def labelsOf (name : List Nat) : List (List Nat) :=
  name.foldr (fun n labels =>
    if n = 0x2E then [] :: labels
    else
      match labels with
      | [] => [[n]]
      | label :: rest => (n :: label) :: rest) [[]]

/-- A label of a name: its ASCII form and what it stands for. -/
structure Label where
  ascii : List Nat
  text : List Nat

/-- Whether the characters of a label with characters beyond ASCII may stand in it. -/
def isWellFormed (text : List Nat) : Bool :=
  text.all (fun n => if n < 0x80 then !isForbidden n else isAdmitted n) &&
    (match text with
      | n :: _ => !InversionList.contains markBoundaries n
      | [] => true) &&
    joinersAllowed [] text

/-- The longest label that is written in ASCII form. -/
def maxWritten : Nat := 1000

/-- The longest ASCII form that is read. -/
def maxRead : Nat := 2000

/-- Reads a label that is mapped and composed. -/
def label? (text : List Nat) : Option Label :=
  if asciiMark.isPrefixOf text then
    let coded := text.drop asciiMark.length
    if coded.length ≤ maxRead ∧ text.all fun n => n < 0x80 then
      match Punycode.decode coded with
      | some decoded =>
        if decoded.any (fun n => 0x80 ≤ n) && compose decoded == decoded && isWellFormed decoded &&
            !asciiMark.isPrefixOf decoded then
          some ⟨text, decoded⟩
        else none
      | none => none
    else none
  else if text.all fun n => n < 0x80 then
    if text.any isForbidden then none else some ⟨text, text⟩
  else if isWellFormed text && decide (text.length ≤ maxWritten) then
    some ⟨asciiMark ++ Punycode.encode text, text⟩
  else none

/-- Whether the labels of a name keep the rule for directions, if it has one. -/
def directionsAllowed (labels : List Label) : Bool :=
  let directions := labels.map fun label => label.text.map Direction.of
  if directions.any fun ds => ds.any Direction.needsRule then directions.all Direction.labelRule
  else true

/-- The ASCII form of a name, if it has one. -/
def toAscii? (name : List Nat) : Option String :=
  match (labelsOf (compose (name.flatMap image))).mapM label? with
  | some labels =>
    if directionsAllowed labels then
      some (String.ofList (((labels.map Label.ascii).intersperse [0x2E]).flatten.map Char.ofNat))
    else none
  | none => none

end Automation.Web.Domain
