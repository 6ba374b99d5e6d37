import Automation.Execution.Dispatch
import Automation.Execution.Walk

/-!
# Recorded runs

A run on its own, with its events on a channel and its status updates in a list. The list may refuse
updates.
-/

namespace Automation

/-- What a recorded run works on. -/
structure Recording where
  session : Session
  channel : Channel Event
  updates : List StatusUpdate

namespace Recording

/-- The recording of a run that has not begun, unless the channel is refused. -/
def open? (capacity : Nat) (session : Session) : Option Recording :=
  (Channel.open? capacity).map fun channel => ⟨session, channel, []⟩

/-- Records an update, or refuses it. -/
def record (accepts : Bool) (u : StatusUpdate) (s : Recording) : Except RunError Unit × Recording :=
  if accepts then (.ok (), { s with updates := s.updates ++ [u] })
  else (.error (.orchestration "status channel unavailable"), s)

/-- The services of a recorded run. -/
def services [Regex.Library] [Web.Library] (d : Dispatcher) (canceled accepts : Bool) :
    Services (Activity Recording) where
  canceled := pure canceled
  handle n context :=
    (d.execute n context).onPart Recording.session fun session s => { s with session }
  emit event := Activity.modify fun s => { s with channel := s.channel.send event }
  publish u := Activity.step (record accepts u)

end Recording

end Automation
