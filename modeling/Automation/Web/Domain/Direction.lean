import Automation.Text.InversionList

/-!
# Writing direction of domain names

The direction classes of characters, and the rule for the labels of a domain name that holds
characters written from right to left.
-/

namespace Automation.Web

open Automation.Text

/-- Letters that are written from right to left. -/
def rightToLeftTable : List String :=
  ["14u 1 1 1 2 1 2 1 9 1i 2 1 2 1 1 1 d 1c y 3 1 2t f 2 7 2 a n 1 u t 2h b 1m 9 2 4 3 1 o 4",
     "1 9 1 3 1 7 15 5 1l 9 16 1bzc h j4 b1 1kw 7z 1 69 f 14 8 4l 6 26 7 dg s 15 6 v 6q 17 2 z",
     "1c 1y b 1d 4 3e 16o0 5s 2a y 7 145"]

/-- Digits of numbers in a text from right to left. -/
def arabicNumberTable : List String :=
  ["19c a 1 2 1fwj g 80 w"]

/-- Digits of numbers in a text from left to right. -/
def europeanNumberTable : List String :=
  ["1c a 1bq a 1drb v"]

/-- Marks that take the direction of what they stand on. -/
def nonspacingTable : List String :=
  ["lc 35 7m 8 7a 19 1 1 1 2 1 2 1 9 1s b 1c l g 1 2t 8 1 6 2 2 1 4 z 1 u t 2h b 1m 9 9 1 o",
     "4 1 9 1 3 1 7 15 5 1l 9 16 1l 1j 1 1 1 4 8 4 1 3 f 2 2 t 1 1m 1 4 6 6 1 k 4 o 5 1l 2 3 r",
     "k 2 3 1 b 2 1l 1 4 8 4 3 i 4 k 8 1m 1 2 1 1 6 6 a b 4 s 1 1p 1 c 3 1c 1 3 1 1j 1 1 3 5 i",
     "a 4 r 1 1m 1 f 9 d 4 q 2 1l 2 4 5 7 1 k 4 r 1 20 5 3 6 2h 1 2 b 8 8 2q 1 2 9 b 8 20 2 r",
     "1 1 1 1 1 1j e 1 5 1 2 5 1d 8 1 2u 4 1 6 1 2 2 2 p 2 4 3 g 4 d 1 2 2 6 1 f 1 jj 3 qa 3 t",
     "2 u e i e 1j 7 8 1 2 b 9 3 4l 2 y 1 3a 3 4 2 9 1 6 7 5z 2 2 3 1k 1 1 9 1 1 2 8 6 d 1c 2c",
     "1c 1 1 5 1 1 5 1 14 9 c 2 w 4 2 2 1 3 1k 1 1 2 3 1 1 3 1m 8 2 5 45 3 1 d 1 7 4 1 6 1 3 2",
     "5i 1t jz 1g 2cr 4 3w 1 2o w fe 4 2z 4 n9u 4 1 a w 2 28 2 7k 1 3 1 4 1 p 2 5 4 44 a i i d",
     "1 12 8 p b 1a 3 1c 1 2 4 2 2 13 1 1v 6 2 2 2 b 3 1 8 1 1b 1 1f 1 1 3 2 2 5 2 1 1 16 2 8",
     "b 6c 1 2 1 4 3 fn2 44 ha 11 qg 3n 2o 1 45 a 1a9 f 14 8 4l 6 ft c 1l 5 8t 2 25 6 1y b 1d",
     "4 3f 1 1i f 15 1 2 2 a 3 1d 4 2 2 7 e 1c 3 10 5 1 9 1p 1 c 2 1g 9 a 4 2 1 2n 3 2 1 1 2 6",
     "1 2 1r 2n 1 3 d g 2 1l 2 3 1 11 q 1n 7 c 3 1 1 e v 1k 8 2 3 1 1 n 1 2c 6 1 1 4 2 1 2 6m",
     "6 4 2 1 2 r 10 1f 8 2 1 1 2 2y 1 1 1 2 6 1 1 2t 3 2 4 1 9 73 9 1 2 74 2 1 1 4 1 40 8 4 1",
     "w 6 2 2 14 6 2 4 8 9 1 6 2 3 1a d 1 2 5i 1 1 3 1 1 5l e 2c n 1 7 1 2 1 23 1d l 1 9 1s 3",
     "2 1 1 1 9n 2 b 2 1g 8 2 1 1 1 n 2e 428 1 6 p 8u6 c 3 3 1xc 5 1n 7 t4 1 1r 4 29 c f59 2",
     "3mp 28 ev 3 h 8 2 7 u 4 44 3 1iz 1j 4 1e 8 1 e 1 m v9 74 74 1c 7 af i 18 4 e4 4 72 2 6r",
     "1 2 1 7 2 5 9 cy 2a y 7"]

/-- Signs without a direction of their own. -/
def neutralTable : List String :=
  ["0 9 5 e 5 f a 13 q 2s o 1 ch 2 7 e 2 s 1 h 39 2 3j 2 b6 7 39 2 1 2 1 1 1 2 2i 1 37 1 a 1",
     "7g 4 e0 2 7 1 6t 8 6y d 3c 7 cg 1 6y 4 uq g 2o 1 ii 5 8r 1 k w 8g 6 48 y 9a 2 1b 1 wc 5g",
     "1g 22 1o bw 1x q 1 ly 1 9f 74 mo 51 7 d 7 74 ed 3 p f 1 6 4 2 4 2n 1 2i 1 5g 1c 5hs 1s",
     "h3k 1s 8t 3 2r 1 a 3 3j z 2t 1 4f 4 c 8 1g c kq 2e fsz gt 11 1a i6 1 1q 25 3 1s 1fz 1 ex",
     "7 fi 1 v 5u 34 16 9k k oe d hr w 129 f rp 16 fam 3 he 1 i71 lc kp 2h 3 3f 1s 2o 333 cx",
     "8f 5d 1m8 gw t 3 1p 1l 3e 2ow"]

/-- The direction class of a character. -/
inductive Direction where
  | leftToRight
  | rightToLeft
  | arabicNumber
  | europeanNumber
  | nonspacing
  | neutral
  deriving Repr, DecidableEq

namespace Direction

/-- The boundaries of every class but the first. -/
def classes : List (Direction × List Nat) :=
  [(rightToLeft, decodeBoundaries rightToLeftTable),
    (arabicNumber, decodeBoundaries arabicNumberTable),
    (europeanNumber, decodeBoundaries europeanNumberTable),
    (nonspacing, decodeBoundaries nonspacingTable), (neutral, decodeBoundaries neutralTable)]

/-- The class of a code point. -/
def of (n : Nat) : Direction :=
  match classes.find? fun entry => InversionList.contains entry.2 n with
  | some entry => entry.1
  | none => leftToRight

/-- Whether a character makes its domain name one with a rule for directions. -/
def needsRule (d : Direction) : Bool :=
  d == rightToLeft || d == arabicNumber

/-- The last class of a label that is not a mark. -/
def lastOf (ds : List Direction) : Option Direction :=
  (ds.filter fun d => d ≠ nonspacing).getLast?

/-- Whether a label from right to left keeps the rule: it holds nothing from left to right, ends in
a letter or a digit, and has digits of one kind. -/
def rightToLeftRule (ds : List Direction) : Bool :=
  ds.all (fun d => d ≠ leftToRight) &&
    (match lastOf ds with
      | some d => d == rightToLeft || d == arabicNumber || d == europeanNumber
      | none => false) &&
    !(ds.contains arabicNumber && ds.contains europeanNumber)

/-- Whether a label from left to right keeps the rule: it holds nothing from right to left and ends
in a letter or a digit. -/
def leftToRightRule (ds : List Direction) : Bool :=
  ds.all (fun d => d ≠ rightToLeft && d ≠ arabicNumber) &&
    match lastOf ds with
    | some d => d == leftToRight || d == europeanNumber
    | none => false

/-- Whether a label of a domain name with a rule for directions keeps it. -/
def labelRule (ds : List Direction) : Bool :=
  match ds with
  | [] => true
  | d :: _ =>
    if d = rightToLeft then rightToLeftRule ds
    else if d = leftToRight then leftToRightRule ds
    else false

end Direction

end Automation.Web
