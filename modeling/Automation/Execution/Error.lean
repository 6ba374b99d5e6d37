/-!
# Errors of runs and of the engine

Everything that ends a run or a request with an error, and the wording of each.
-/

namespace Automation

/-- Why a run or a request fails. -/
inductive RunError where
  | noStartNode
  | noOutgoingEdge (node : String)
  | unresolvedTarget (source target : String)
  | unmatchedDecision (node : String)
  | unsupportedNodeType (node : String)
  | cycleDetected (node : String)
  | scriptSandbox (node message : String)
  | config (message : String)
  | configNotFound (path : String)
  | orchestration (message : String)
  | executionNotFound (id : String)
  deriving Repr, DecidableEq

namespace RunError

/-- The wording of an error. -/
def message : RunError → String
  | noStartNode => "Workflow has no start node"
  | noOutgoingEdge node => "Node '" ++ node ++ "' has no outgoing edge"
  | unresolvedTarget source target =>
    "Edge from '" ++ source ++ "' targets unknown node '" ++ target ++ "'"
  | unmatchedDecision node =>
    "Decision node '" ++ node ++ "' has no matching condition and no default edge"
  | unsupportedNodeType node => "Unsupported node type on node '" ++ node ++ "'"
  | cycleDetected node => "Cycle detected: node '" ++ node ++ "' would be visited twice"
  | scriptSandbox node text =>
    "Script sandbox violation on node '" ++ node ++ "': " ++ text
  | config text => "Config error: " ++ text
  | configNotFound path => "Config file not found: " ++ path
  | orchestration text => "Orchestration error: " ++ text
  | executionNotFound id => "Execution not found: " ++ id

/-- Whether the error is a fault of the structure of the graph. -/
def isGraphStructure : RunError → Bool
  | noStartNode => true
  | noOutgoingEdge _ => true
  | unresolvedTarget _ _ => true
  | cycleDetected _ => true
  | _ => false

end RunError

end Automation
