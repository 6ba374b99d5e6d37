/-!
# Watched values

A watched value is set by one sender and seen by any number of receivers, each of which sees the
last value that was set. A receiver waits for a value that it accepts. When the sender is gone the
last value stays; a receiver that does not accept it waits in vain.
-/

namespace Automation

/-- A watched value, as its receivers see it. -/
structure Watch (α : Type) where
  /-- The last value that was set. -/
  value : α
  /-- Whether the sender is still there. -/
  isHeld : Bool

/-- What a receiver that waits for a value is answered. -/
inductive Watched (α : Type) where
  /-- Another value may come. -/
  | waiting
  /-- No other value will come. -/
  | closed
  | value (a : α)
  deriving Repr, DecidableEq

/-- What a receiver is answered that waits for a value that it accepts. -/
def Watch.waitFor (accepts : α → Bool) (w : Watch α) : Watched α :=
  if accepts w.value then .value w.value
  else if w.isHeld then .waiting
  else .closed

end Automation
