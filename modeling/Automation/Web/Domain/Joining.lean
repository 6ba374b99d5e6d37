import Automation.Text.Composition

/-!
# Joiners in domain names

The joiner U+200D and the non-joiner U+200C are allowed where they change how letters are written:
behind a mark that takes the vowel from a consonant, and the non-joiner also between two letters
that would join.
-/

namespace Automation.Web

open Automation.Text

/-- Letters that join to the letter behind them. -/
def joinsForwardTable : List String :=
  ["17k 1 5 1 1 1 1 5 4 d 1 7 1 2 z 2 9 f i 12 1 2 9 1 1 1 1 2 14 3 2 1 i 3 5 4 1 9 1 1 1 1",
     "1 2 v b 3 f 2 4 1 1 2 3 2 6 22 x 2e 5 2 1 1 a 1 1 a 1 1 4 2 1 t 1 2 5 1 8 9 a 5 2 2 6 1",
     "f 30e 1 o 2o 7 y 1 6 scw 1f jf1 5 8 1 5 a 1 3 a 4 41 1 1 1 3 3 1 2 1 1 2 1 s 2 9d y 1 1",
     "bj 2 1 a 2o 3 1 h c 3 s 4 2 c 1a 1 1 2 4 1 2 2 1 2 1 1 2 1 5 m 16wy y"]

/-- Letters that join to the letter before them. -/
def joinsBackwardTable : List String :=
  ["17k 1 1 u 1 a z 2 1 3 5 2j 1 1 o 2 a 3 2 1 g 1 1 u t 1f 22 x 2d p 7 1 1 4 1 s 3 1 2 e 9",
     "d 1 r 30e 1 o 2o 7 y 1 6 scw 1e jf2 6 1 1 1 2 3 9 1 a 2 1 6 5 40 p g 6 9e z bi 3 1 a 2o",
     "l c 4 r i 1a 1 1 5 1 8 1 4 4 2 16xj y"]

/-- Characters that joining passes over. -/
def transparentTable : List String :=
  ["lc 35 7m 8 7a 19 1 1 1 2 1 2 1 9 1s b 1c l g 1 2t 8 1 6 2 2 1 4 z 1 u t 2h b 1m 9 9 1 o",
     "4 1 9 1 3 1 7 15 5 1l 9 16 1l 1j 1 1 1 4 8 4 1 3 f 2 2 t 1 1m 1 4 6 6 1 k 4 o 5 1l 2 3 r",
     "k 2 3 1 b 2 1l 1 4 8 4 3 i 4 k 8 1m 1 2 1 1 6 6 a b 4 s 1 1p 1 c 3 1c 1 3 1 1j 1 1 3 5 i",
     "a 4 r 1 1m 1 2 1 6 1 5 9 d 4 q 2 1l 2 4 5 7 1 k 4 r 1 20 5 3 6 2h 1 2 b 8 8 2q 1 2 9 b 8",
     "20 2 r 1 1 1 1 1 1j e 1 5 1 2 5 1d 8 1 2u 4 1 6 1 2 2 2 p 2 4 3 g 4 d 1 2 2 6 1 f 1 jj 3",
     "qa 3 t 2 u e i e 1j 7 8 1 2 b 9 3 4l 2 y 1 3a 3 4 2 9 1 6 7 5z 2 2 3 1k 1 1 9 1 1 2 8 6",
     "d 1c 2c 1c 1 1 5 1 1 5 1 14 9 c 2 w 4 2 2 1 3 1k 1 1 2 3 1 1 3 1m 8 2 5 45 3 1 d 1 7 4 1",
     "6 1 3 2 5i 1t jz 1g 2cr 4 3w 1 2o w fe 4 2z 4 n9u 4 1 a w 2 28 2 7k 1 3 1 4 1 p 2 5 4 44",
     "a i i d 1 12 8 p b 1a 3 1c 1 2 4 2 2 13 1 1v 6 2 2 2 b 3 1 8 1 1b 1 1f 1 1 3 2 2 5 2 1 1",
     "16 2 8 b 6c 1 2 1 4 3 fn2 44 ha 11 qg 3n 2o 1 45 a 1a9 f 14 8 4l 6 ft c 1l 5 8t 2 25 6",
     "1y b 1d 4 3f 1 1i f 15 1 2 2 a 3 1d 4 2 2 7 e 1c 3 10 5 1 9 1p 1 c 2 1g 9 a 4 2 1 2n 3 2",
     "1 1 2 6 1 2 1r 2n 1 3 d g 2 1l 2 3 1 11 q 1n 7 c 1 1 1 1 1 e v 1k 8 2 3 1 1 n 1 2c 6 1 1",
     "4 2 1 2 6m 6 4 2 1 2 r 10 1f 8 2 1 1 2 2y 1 1 1 2 6 1 1 2t 1 1 1 2 4 1 9 73 9 1 2 74 2 1",
     "1 4 1 40 8 4 1 w a 14 6 2 4 8 9 1 6 2 3 1a d 1 2 5i 1 1 3 1 1 5l e 1 1 2a n 1 7 1 2 1 23",
     "1d l 1 9 1s 3 2 1 1 1 9n 2 b 2 1g 8 2 1 1 1 n 2e 428 1 6 p 8u6 c 3 3 1xc 5 1n 7 t4 1 1r",
     "4 29 c f59 2 3mp 28 ev 3 h 8 2 7 u 4 44 3 1iz 1j 4 1e 8 1 e 1 m v9 74 74 1c 7 af i 18 4",
     "e4 4 72 2 6r 1 2 1 7 2 5 9 cy 2a y c"]

/-- The boundaries of the letters that join forward. -/
def joinsForward : List Nat := decodeBoundaries joinsForwardTable

/-- The boundaries of the letters that join backward. -/
def joinsBackward : List Nat := decodeBoundaries joinsBackwardTable

/-- The boundaries of the characters that joining passes over. -/
def transparent : List Nat := decodeBoundaries transparentTable

/-- The class of the marks that take the vowel from a consonant. -/
def viramaClass : Nat := 9

/-- Whether the first character that joining does not pass over is in a set. -/
def reaches (set : List Nat) (text : List Nat) : Bool :=
  match text.dropWhile (InversionList.contains transparent) with
  | n :: _ => InversionList.contains set n
  | [] => false

/-- Whether a code point may stand between the reversed text before it and the text behind it. -/
def joinerAllowed (before : List Nat) (n : Nat) (behind : List Nat) : Bool :=
  let virama :=
    match before with
    | m :: _ => combiningClass m == viramaClass
    | [] => false
  if n = 0x200D then virama
  else if n = 0x200C then virama || (reaches joinsForward before && reaches joinsBackward behind)
  else true

/-- Whether every joiner of a label is allowed, with the reversed text before it. -/
def joinersAllowed (before : List Nat) : List Nat → Bool
  | [] => true
  | n :: rest => joinerAllowed before n rest && joinersAllowed (n :: before) rest

end Automation.Web
