import Automation.Execution.Error
import Automation.Execution.Event
import Automation.Execution.Report
import Automation.Graph.Choice
import Automation.Config.Basic

/-!
# The walk through a graph

A run begins at the first start node and visits one node after another. Before every node it looks
whether it is asked to stop. A node is visited once; what happens when the walk comes back to one is
up to the policy. After an end node the run is complete. After a decision the walk takes the edge
that the results so far choose, after any other node the first edge.

What a run needs from outside are its services. They work in any monad, so that a run is the same
whether the services are shared with other runs, recorded, or nothing but given answers.
-/

namespace Automation

/-- What a run needs from outside. -/
structure Services (m : Type → Type) where
  /-- Whether the run is asked to stop. -/
  canceled : m Bool
  /-- Does what a node asks for, in its context. -/
  handle : Node → Fields → m (Except RunError NodeResult)
  /-- Tells an event. -/
  emit : Event → m Unit
  /-- Sends a status update, which may not arrive. -/
  publish : StatusUpdate → m (Except RunError Unit)

/-- How a walk ends. -/
inductive Ending where
  | completed
  | canceled
  | failed (error : RunError)
  deriving Repr, DecidableEq

namespace Ending

/-- The status of a run that ends like this. -/
def status : Ending → Status
  | completed => .completed
  | canceled => .canceled
  | failed _ => .failed

/-- The error of a run that ends like this. -/
def error? : Ending → Option String
  | failed e => some e.message
  | _ => none

/-- The last event of a run that ends like this after a number of results. -/
def event (visited : Nat) : Ending → EventKind
  | completed => .runCompleted visited
  | canceled => .runCanceled
  | failed e => .runFailed e.message

end Ending

/-- How a walk ended, and the results of the nodes that it visited. -/
structure Walked where
  ending : Ending
  results : Results

/-- The ending of a walk that comes back to a node. -/
def RevisitPolicy.ending (id : String) : RevisitPolicy → Ending
  | fail => .failed (.cycleDetected id)
  | complete => .completed

variable [Regex.Library]

namespace RunRequest

/-- The input of a run. -/
def fields (r : RunRequest) : Fields :=
  r.input.getD []

/-- The first start node. -/
def start? (r : RunRequest) : Option Node :=
  r.nodes.find? Node.isStart

/-- The first node of an id. -/
def node? (r : RunRequest) (id : String) : Option Node :=
  r.nodes.find? fun n => n.id = id

/-- The edge that the walk takes after a node, or the error that there is none. -/
def edgeAfter (r : RunRequest) (n : Node) (results : Results) : Except RunError Edge :=
  if n.isDecision then
    match Edge.choose? (outgoing r.edges n.id) (Results.context r.fields results) with
    | some e => .ok e
    | none => .error (.unmatchedDecision n.id)
  else
    match (outgoing r.edges n.id).head? with
    | some e => .ok e
    | none => .error (.noOutgoingEdge n.id)

/-- The node that the walk comes to after another one, or the error that there is none. -/
def nodeAfter (r : RunRequest) (n : Node) (results : Results) : Except RunError Node :=
  match r.edgeAfter n results with
  | .error e => .error e
  | .ok e =>
    match r.node? e.target with
    | some next => .ok next
    | none => .error (.unresolvedTarget n.id e.target)

end RunRequest

section

variable {m : Type → Type} [Monad m]

/-- Visits a node: tells that it starts, does what it asks for, and tells how it finished. An error
ends the run, and the visit is left unfinished. -/
def visit (services : Services m) (r : RunRequest) (n : Node) (results : Results) :
    m (Except RunError Results) := do
  services.emit ⟨r.executionId, .nodeStarted n.id n.kind.typeName⟩
  match ← services.handle n (Results.context r.fields results) with
  | .error e => pure (.error e)
  | .ok result =>
    services.emit ⟨r.executionId, .nodeFinished n.id result.success⟩
    pure (.ok (Results.put n.id result results))

/-- Comes to a node after some results, and goes on unless the run is asked to stop or has visited the
node. -/
def arrive (services : Services m) (policy : RevisitPolicy) (n : Node) (results : Results)
    (goOn : Unit → m Walked) : m Walked := do
  if ← services.canceled then pure ⟨.canceled, results⟩
  else if Results.has n.id results then pure ⟨policy.ending n.id, results⟩
  else goOn ()

/-- Walks on from a node after some results. The results stand for the set of visited nodes, too: a
visited node has a result, as a visit without one ends the walk. There is room for a number of further
nodes; when there is none left, every node has been visited. -/
def walkFrom (services : Services m) (policy : RevisitPolicy) (r : RunRequest) :
    Nat → Node → Results → m Walked
  | 0, n, results =>
    arrive services policy n results fun _ => pure ⟨policy.ending n.id, results⟩
  | room + 1, n, results =>
    arrive services policy n results fun _ => do
      match ← visit services r n results with
      | .error e => pure ⟨.failed e, results⟩
      | .ok results =>
        if n.isEnd then pure ⟨.completed, results⟩
        else
          match r.nodeAfter n results with
          | .error e => pure ⟨.failed e, results⟩
          | .ok next => walkFrom services policy r room next results

/-- Walks from the first start node to an end. -/
def walk (services : Services m) (policy : RevisitPolicy) (r : RunRequest) : m Walked :=
  match r.start? with
  | none => pure ⟨.failed .noStartNode, []⟩
  | some n => walkFrom services policy r r.nodes.length n []

/-- The outcome of a walk. -/
def RunRequest.outcome (r : RunRequest) (w : Walked) : Outcome :=
  ⟨r.executionId, r.workflowId, w.ending.status, w.results, w.ending.error?⟩

/-- Runs a workflow to its end. The run is reported as running first, and at last as what it has
become. Whether the reports arrive makes no difference. The last event of a completed run tells how
many nodes were visited, which is how many results there are. -/
def RunRequest.run (services : Services m) (policy : RevisitPolicy) (r : RunRequest) :
    m Outcome := do
  let _ ← services.publish (.started r.executionId)
  services.emit ⟨r.executionId, .runStarted r.workflowId⟩
  let w ← walk services policy r
  let _ ← services.publish (.ended r.executionId w.ending.status w.results w.ending.error?)
  services.emit ⟨r.executionId, w.ending.event w.results.length⟩
  pure (r.outcome w)

end

end Automation
