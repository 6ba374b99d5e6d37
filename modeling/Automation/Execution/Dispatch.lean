import Automation.Browser.Session
import Automation.Config.Basic
import Automation.Execution.Error
import Automation.Expr.Eval
import Automation.Graph.Workflow
import Automation.Script.Run
import Automation.Web.Request

/-!
# What nodes do

A dispatcher does what a node asks for. That a node fails is its result and does not end the run;
only a node of an unknown type and a script that oversteps its limits do.
-/

namespace Automation

/-- What nodes work with. -/
structure Dispatcher where
  browser : BrowserConfig
  limits : Script.Limits
  userAgent : String
  network : Web.Network

/-- The pause of a delay that names none, in milliseconds. -/
def defaultDelay : Nat := 1000

namespace ApiCall

/-- The headers of a request; its body is JSON unless the node says something else. -/
def requestHeaders (c : ApiCall) : List (String × String) :=
  if Web.hasHeader "content-type" c.headers then c.headers
  else ("content-type", "application/json") :: c.headers

/-- The body of a request; no body and a null one are empty. -/
def bodyText (c : ApiCall) : String :=
  match c.body with
  | none => ""
  | some .null => ""
  | some v => v.compact

/-- Sends the request of a node. There is no second try. -/
def send [Web.Library] (userAgent : String) (network : Web.Network) (c : ApiCall) :
    Except Web.RequestError (Nat × Value) := do
  let request ← Web.Request.build userAgent c.method c.url c.requestHeaders c.bodyText
  request.send network

/-- What a node that sends a request answers. -/
def result [Web.Library] (userAgent : String) (network : Web.Network) (c : ApiCall) : NodeResult :=
  match c.send userAgent network with
  | .ok (status, data) =>
    (NodeResult.succeeded.with "status" (.ofNat status)).with "data" data
  | .error e => .failed e.message

end ApiCall

namespace ScriptNode

/-- The variables of a script: those of the context, those of the node over them, and the id of the
node over all. -/
def bindings (s : ScriptNode) (id : String) (context : Fields) : Fields :=
  let own := (s.context.getD []).foldl (fun acc field => Fields.insert field.1 field.2 acc)
    (Expr.bindingsOfContext context)
  Fields.insert "nodeId" (.string id) own

/-- What a node that runs a script answers. -/
def result [Regex.Library] (limits : Script.Limits) (s : ScriptNode) (id : String)
    (context : Fields) : Except RunError NodeResult :=
  match Script.run limits s.code (s.bindings id context) with
  | .ok v => .ok (NodeResult.succeeded.with "result" v)
  | .error e =>
    if e.isSandboxViolation then .error (.scriptSandbox id e.message)
    else .ok (.failed e.message)

end ScriptNode

namespace Dispatcher

/-- The dispatcher of settings, if there is a client for it. -/
def ofConfig [Web.Library] (network : Web.Network) (c : Config) : Except RunError Dispatcher :=
  match Web.Library.client c.http.timeoutSecs c.http.userAgent with
  | .ok () => .ok ⟨c.browser, ⟨c.script.maxSteps, c.script.maxDepth⟩, c.http.userAgent, network⟩
  | .error reason => .error (.config ("HTTP client: " ++ reason))

/-- Waits. A delay of no time only lets others go first. -/
def delay (milliseconds : Nat) : Activity Session Unit :=
  if milliseconds = 0 then Activity.wait .yield else Activity.wait (.sleep milliseconds)

/-- Does what a node asks for, in its context. -/
def execute [Regex.Library] [Web.Library] (d : Dispatcher) (n : Node) (context : Fields) :
    Activity Session (Except RunError NodeResult) :=
  match n.kind with
  | .start => pure (.ok (NodeResult.succeeded.with "message" (.string "Workflow started")))
  | .finish => pure (.ok (NodeResult.succeeded.with "message" (.string "Workflow finished")))
  | .task => pure (.ok .succeeded)
  | .decision => pure (.ok (NodeResult.succeeded.with "nodeId" (.string n.id)))
  | .browserAction a => do
    let r ← Session.perform d.browser a
    pure (.ok r)
  | .delay milliseconds => do
    let time := milliseconds.getD defaultDelay
    delay time
    pure (.ok (NodeResult.succeeded.with "delayedMs" (.ofNat time)))
  | .apiCall c => pure (.ok (c.result d.userAgent d.network))
  | .script s => pure (s.result d.limits n.id context)
  | .unsupported => pure (.error (.unsupportedNodeType n.id))

end Dispatcher

end Automation
