/-!
# Channels

A channel hands every message to every receiver, in the order in which they were sent. It retains
the last messages only. A receiver that has fallen behind is told once how many messages it missed
and goes on with the oldest one that is retained.
-/

namespace Automation

/-- A channel and all that was sent on it. -/
structure Channel (α : Type) where
  /-- How many messages are retained. -/
  capacity : Nat
  sent : List α

/-- What a receiver is answered. -/
inductive Received (α : Type) where
  /-- There is no new message. -/
  | nothing
  | lagged (missed : Nat)
  | message (a : α)
  deriving Repr, DecidableEq

namespace Channel

/-- The least power of two that is not below a number, from one power on. -/
def powerFrom (n : Nat) : Nat → Nat → Nat
  | 0, power => power
  | steps + 1, power => if n ≤ power then power else powerFrom n steps (2 * power)

/-- The greatest capacity that is accepted. -/
def maxCapacity : Nat := Nat.pow 2 63 - 1

/-- A channel that retains at least a number of messages; the number is brought to a power of two.
None and too many are refused. -/
def open? (capacity : Nat) : Option (Channel α) :=
  if capacity = 0 ∨ maxCapacity < capacity then none
  else some ⟨powerFrom capacity 63 1, []⟩

/-- The channel with one more message. -/
def send (a : α) (c : Channel α) : Channel α :=
  { c with sent := c.sent ++ [a] }

/-- The number of the oldest message that is retained. -/
def oldest (c : Channel α) : Nat :=
  c.sent.length - c.capacity

/-- What a receiver that waits for message number `position` is answered, and what it waits for
then. -/
def receive (c : Channel α) (position : Nat) : Received α × Nat :=
  if position < c.oldest then (.lagged (c.oldest - position), c.oldest)
  else
    match c.sent[position]? with
    | some a => (.message a, position + 1)
    | none => (.nothing, position)

/-- All that a receiver can be answered at once: how many messages it missed, and the messages that
follow. -/
def pending (c : Channel α) (position : Nat) : Nat × List α :=
  (c.oldest - position, c.sent.drop (max position c.oldest))

end Channel

end Automation
