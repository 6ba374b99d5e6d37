import Automation.Execution.Channel
import Automation.Execution.Status

/-!
# Events

What a run says about itself while it goes on: that it started, that a node started and finished,
and how it ended.
-/

namespace Automation

/-- What an event tells. -/
inductive EventKind where
  | runStarted (workflowId : String)
  | nodeStarted (id type : String)
  | nodeFinished (id : String) (success : Bool)
  | runCompleted (visited : Nat)
  | runFailed (error : String)
  | runCanceled
  deriving Repr, DecidableEq

/-- Whether an event ends its run. -/
def EventKind.isTerminal : EventKind → Bool
  | runCompleted _ => true
  | runFailed _ => true
  | runCanceled => true
  | _ => false

/-- An event of a run. -/
structure Event where
  executionId : String
  kind : EventKind
  deriving Repr, DecidableEq

/-- The events of a run among those of all runs. -/
def eventsOf (id : String) (events : List Event) : List EventKind :=
  (events.filter fun e => e.executionId = id).map Event.kind

end Automation
