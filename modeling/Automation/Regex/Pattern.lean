import Automation.Regex.CharSet

/-!
# Patterns and what they match

A pattern takes a set of positions in a text to the set of positions that it can reach from them.
A text matches if some position reaches any position at all. Repetition is iteration, and an
unbounded repetition stops when it reaches nothing new, so a search always ends.
-/

namespace Automation.Regex

/-- An assertion about a position. -/
inductive Look where
  | textStart
  | textEnd
  | lineStart (crlf : Bool)
  | lineEnd (crlf : Bool)
  | wordBoundary (unicode : Bool)
  | noWordBoundary (unicode : Bool)
  | wordStart (unicode : Bool)
  | wordEnd (unicode : Bool)
  | wordStartHalf (unicode : Bool)
  | wordEndHalf (unicode : Bool)

/-- A regular expression. -/
inductive Pattern where
  | empty
  | set (s : CharSet)
  | look (l : Look)
  | sequence (p q : Pattern)
  | alternative (p q : Pattern)
  /-- At least `least` and at most `most` times. -/
  | repetition (least : Nat) (most : Option Nat) (p : Pattern)

namespace Look

/-- Whether the assertion holds between the characters before and after a position. `earlier` is
the character before the one before, `later` the one after the one after. -/
def holds (l : Look) (before after : Option Char) : Bool :=
  let isWord (unicode : Bool) (c : Option Char) : Bool :=
    match c with
    | some c => (CharSet.words unicode).has c.toNat
    | none => false
  match l with
  | textStart => before.isNone
  | textEnd => after.isNone
  | lineStart false => before.isNone || before == some '\n'
  | lineStart true =>
    before.isNone || before == some '\n' || (before == some '\r' && after != some '\n')
  | lineEnd false => after.isNone || after == some '\n'
  | lineEnd true =>
    after.isNone || after == some '\r' || (after == some '\n' && before != some '\r')
  | wordBoundary u => isWord u before != isWord u after
  | noWordBoundary u => isWord u before == isWord u after
  | wordStart u => !isWord u before && isWord u after
  | wordEnd u => isWord u before && !isWord u after
  | wordStartHalf u => !isWord u before
  | wordEndHalf u => !isWord u after

end Look

/-- The union of two increasing lists of positions. -/
def mergePositions : List Nat → List Nat → List Nat
  | [], bs => bs
  | as, [] => as
  | a :: as, b :: bs =>
    if a < b then a :: mergePositions as (b :: bs)
    else if b < a then b :: mergePositions (a :: as) bs
    else a :: mergePositions as bs
termination_by as bs => as.length + bs.length

/-- Applies a step a number of times, and not once more than there are positions left. -/
def iterateStep (step : List Nat → List Nat) : Nat → List Nat → List Nat
  | 0, ps => ps
  | n + 1, ps => if ps.isEmpty then [] else iterateStep step n (step ps)

/-- All positions that a step reaches within a number of rounds, the starting ones included.
Rounds go on from what the last one added. -/
def reachWithin (step : List Nat → List Nat) : Nat → List Nat → List Nat → List Nat
  | 0, reached, _ => reached
  | n + 1, reached, added =>
    let fresh := (step added).filter fun p => !reached.contains p
    if fresh.isEmpty then reached else reachWithin step n (mergePositions reached fresh) fresh

namespace Pattern

/-- The positions that the pattern reaches in a text from a set of positions. -/
def advance (text : Array Char) : Pattern → List Nat → List Nat
  | empty, ps => ps
  | set s, ps =>
    (ps.filter fun p =>
      match text[p]? with
      | some c => s.has c.toNat
      | none => false).map (· + 1)
  | look l, ps =>
    ps.filter fun p => l.holds (if p = 0 then none else text[p - 1]?) text[p]?
  | sequence p q, ps => q.advance text (p.advance text ps)
  | alternative p q, ps => mergePositions (p.advance text ps) (q.advance text ps)
  | repetition least most p, ps =>
    let start := iterateStep (p.advance text) least ps
    match most with
    | none => reachWithin (p.advance text) (text.size + 1) start start
    | some most => reachWithin (p.advance text) (min (most - least) (text.size + 1)) start start

/-- Whether the pattern matches anywhere in a text. -/
def matchesIn (p : Pattern) (text : String) : Bool :=
  let chars := text.toList.toArray
  !(p.advance chars (List.range (chars.size + 1))).isEmpty

/-- The pattern of one pattern after another. -/
def ofList : List Pattern → Pattern
  | [] => empty
  | [p] => p
  | p :: rest => sequence p (ofList rest)

/-- An estimate, in bytes, of the program that the pattern compiles to. -/
def programSize : Pattern → Nat
  | empty => 32
  | set s => 32 + 48 * s.rangeCount
  | look _ => 32
  | sequence p q => p.programSize + q.programSize
  | alternative p q => p.programSize + q.programSize + 32
  | repetition least most p => 32 + p.programSize * max 1 (most.getD (least + 1))

/-- The largest program that is accepted. -/
def programLimit : Nat := 10 * Nat.pow 2 20

end Pattern

end Automation.Regex
