import Automation.Execution.Registry
import Automation.Execution.Request

/-!
# Status reports

The updates that a run sends about itself, and the report that answers a status query. A report
carries an outcome only after the end of the run, and an error only if the run failed.
-/

namespace Automation

namespace StatusUpdate

/-- The run has started. -/
def started (id : String) : StatusUpdate := ⟨id, .running, none, none⟩

/-- The run has ended. -/
def ended (id : String) (status : Status) (results : Results) (error : Option String) :
    StatusUpdate :=
  ⟨id, status, some results, error⟩

end StatusUpdate

namespace RunState

/-- The status that a query answers. -/
def status : RunState → Status
  | pending => .pending
  | running => .running
  | completed => .completed
  | failed => .failed
  | terminated => .failed
  | timedOut => .failed
  | canceled => .canceled

/-- The error that a query answers, from the failure that is known. -/
def error? (failure : Option String) : RunState → Option String
  | failed => failure
  | terminated => some (failure.getD "Run was terminated")
  | timedOut => some (failure.getD "Run timed out")
  | _ => none

end RunState

namespace StatusReport

/-- The report on a run from what is known about it. -/
def ofDescription (id : String) (d : RunDescription) : StatusReport :=
  let status := d.state.status
  ⟨id, status, if status.isTerminal then d.outcome else none, d.state.error? d.failure⟩

end StatusReport

namespace Registry

/-- The report on a tracked run. -/
def report (g : Registry) (id : String) : Except RunError StatusReport :=
  (g.describe id).map (StatusReport.ofDescription id)

end Registry

end Automation
