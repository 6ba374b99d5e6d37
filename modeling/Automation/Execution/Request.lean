import Automation.Execution.Status
import Automation.Graph.Workflow

/-!
# Requests and reports

What starts a run, and what is answered about it.
-/

namespace Automation

/-- A request to run a graph. -/
structure RunRequest where
  workflowId : String
  executionId : String
  nodes : List Node
  edges : List Edge
  input : Option Fields

namespace RunRequest

/-- Decodes a request. -/
def ofValue? (v : Value) : Option RunRequest := do
  let r ← Record.ofValue? ["workflowId", "executionId", "nodes", "edges", "input"] v
  let workflowId ← r.required "workflowId" Value.asString?
  let executionId ← r.required "executionId" Value.asString?
  let nodes ← r.required "nodes" (Value.asList? Node.ofValue?)
  let edges ← r.required "edges" (Value.asList? Edge.ofValue?)
  let input ← r.optional "input" Value.asObject?
  pure ⟨workflowId, executionId, nodes, edges, input⟩

end RunRequest

/-- The answer to a status query. -/
structure StatusReport where
  executionId : String
  status : Status
  result : Option Outcome
  error : Option String

end Automation
