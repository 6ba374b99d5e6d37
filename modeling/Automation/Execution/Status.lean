import Automation.Execution.Result

/-!
# Runs and their status

The lifecycle of a run: it is pending, then running, and ends completed, failed or canceled. A
tracked execution takes status updates until it has ended; later ones are ignored.
-/

namespace Automation

/-- The status of a run. -/
inductive Status where
  | pending
  | running
  | completed
  | failed
  | canceled
  deriving Repr, DecidableEq

namespace Status

/-- Whether the run has ended. -/
def isTerminal : Status → Bool
  | pending => false
  | running => false
  | completed => true
  | failed => true
  | canceled => true

/-- The name of the status. -/
def name : Status → String
  | pending => "pending"
  | running => "running"
  | completed => "completed"
  | failed => "failed"
  | canceled => "canceled"

/-- Every status. -/
def all : List Status := [pending, running, completed, failed, canceled]

/-- Decodes a status. -/
def ofValue? (v : Value) : Option Status :=
  v.asName?.bind fun name => all.find? fun s => s.name == name

end Status

/-- A change of status. -/
structure StatusUpdate where
  executionId : String
  status : Status
  result : Option Results
  error : Option String

namespace StatusUpdate

/-- Decodes an update; results are decoded as the caller does. -/
def ofValue? (results : Value → Option Results) (v : Value) : Option StatusUpdate := do
  let r ← Record.ofValue? ["executionId", "status", "result", "error"] v
  let executionId ← r.required "executionId" Value.asString?
  let status ← r.required "status" Status.ofValue?
  let result ← r.optional "result" results
  let error ← r.optional "error" Value.asString?
  pure ⟨executionId, status, result, error⟩

end StatusUpdate

/-- The final outcome of a run, with the results that accumulated. -/
structure Outcome where
  executionId : String
  workflowId : String
  status : Status
  results : Results
  error : Option String

namespace Outcome

/-- Decodes an outcome; results are decoded as the caller does. -/
def ofValue? (results : Value → Option Results) (v : Value) : Option Outcome := do
  let r ← Record.ofValue? ["executionId", "workflowId", "status", "results", "error"] v
  let executionId ← r.required "executionId" Value.asString?
  let workflowId ← r.required "workflowId" Value.asString?
  let status ← r.required "status" Status.ofValue?
  let results ← r.withDefault "results" results []
  let error ← r.optional "error" Value.asString?
  pure ⟨executionId, workflowId, status, results, error⟩

end Outcome

/-- A tracked run. -/
structure Execution where
  id : String
  workflowId : String
  status : Status
  /-- Whether an end time is set. -/
  ended : Bool
  result : Option Results
  error : Option String

namespace Execution

/-- A run that has not started. -/
def pending (id workflowId : String) : Execution :=
  ⟨id, workflowId, .pending, false, none, none⟩

/-- The run after an update. What the update does not carry stays; after the end nothing
changes. -/
def apply (e : Execution) (u : StatusUpdate) : Execution :=
  if e.status.isTerminal then e
  else
    { e with
      status := u.status
      result := u.result <|> e.result
      error := u.error <|> e.error
      ended := u.status.isTerminal || e.ended }

/-- Whether updates still take effect. -/
def isOpen (e : Execution) : Bool :=
  !e.status.isTerminal

end Execution


end Automation
