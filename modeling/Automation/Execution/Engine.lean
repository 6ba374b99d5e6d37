import Automation.Activity.Scheduler
import Automation.Execution.Dispatch
import Automation.Execution.Registry
import Automation.Execution.Walk

/-!
# The engine

An engine runs many workflows at once. The runs share one browser session, one registry and one
channel of events. A run that is started is a task of its own: it does nothing until the tasks get a
turn. Clients start and cancel runs, wait for them and ask about them.
-/

namespace Automation

/-- What the runs of an engine share. -/
structure EngineState where
  session : Session
  registry : Registry
  channel : Channel Event

variable [Regex.Library] [Web.Library]

namespace EngineState

/-- The session of a state, changed. -/
def withSession (session : Session) (s : EngineState) : EngineState :=
  { s with session }

/-- Sends an update to the registry. -/
def publish (u : StatusUpdate) (s : EngineState) : Except RunError Unit × EngineState :=
  match s.registry.publish u with
  | .ok registry => (.ok (), { s with registry })
  | .error e => (.error e, s)

/-- The services of a registered run. -/
def services (d : Dispatcher) (registration : Nat) : Services (Activity EngineState) where
  canceled := do
    let s ← Activity.get
    pure (s.registry.isCanceled registration)
  handle n context := (d.execute n context).onPart EngineState.session withSession
  emit event := Activity.modify fun s => { s with channel := s.channel.send event }
  publish u := Activity.step (publish u)

/-- A registered run from its beginning until its outcome is recorded. -/
def runTask (d : Dispatcher) (policy : RevisitPolicy) (registration : Nat) (r : RunRequest) :
    Activity EngineState Unit := do
  let outcome ← r.run (services d registration) policy
  Activity.modify fun s => { s with registry := s.registry.finish outcome }

end EngineState

/-- An engine and its tasks. -/
structure Engine where
  dispatcher : Dispatcher
  policy : RevisitPolicy
  scheduler : Scheduler EngineState

/-- What comes of opening an engine. -/
inductive Opening where
  | opened (e : Engine)
  | failed (error : RunError)
  /-- The channel of events is refused, which nothing handles. -/
  | aborted

namespace Engine

/-- Opens an engine with settings. -/
def «open» (network : Web.Network) (c : Config) (session : Session) : Opening :=
  match Channel.open? c.events.capacity with
  | none => .aborted
  | some channel =>
    match Dispatcher.ofConfig network c with
    | .error e => .failed e
    | .ok d => .opened ⟨d, c.engine.revisitPolicy, .start ⟨session, .empty, channel⟩⟩

/-- What the runs share. -/
def state (e : Engine) : EngineState :=
  e.scheduler.shared

/-- The registry of the runs. -/
def registry (e : Engine) : Registry :=
  e.state.registry

/-- The engine with a changed state. -/
def changed (f : EngineState → EngineState) (e : Engine) : Engine :=
  { e with scheduler := { e.scheduler with shared := f e.scheduler.shared } }

/-- The engine with a changed registry. -/
def withRegistry (registry : Registry) (e : Engine) : Engine :=
  e.changed fun s => { s with registry }

/-- Lets the tasks go on until all of them wait and it is enough. -/
def runUntil (enough : EngineState → Bool) (e : Engine) : Engine :=
  { e with scheduler := e.scheduler.run fun s => enough s.shared }

/-- Lets the tasks go on until all of them wait. -/
def settle (e : Engine) : Engine :=
  { e with scheduler := e.scheduler.settle }

/-- Lets some time pass. -/
def elapse (milliseconds : Nat) (e : Engine) : Engine :=
  { e with scheduler := e.scheduler.elapse milliseconds }

/-- An activity on the browser session as one on all that the runs share. -/
def onSession (a : Activity Session Unit) : Activity EngineState Unit :=
  a.onPart EngineState.session EngineState.withSession

/-- Has the observer of a generation of the browser session do its work. -/
def observe (generation : Nat) (e : Engine) : Engine :=
  { e with scheduler := e.scheduler.spawn (onSession (Session.observer generation)) }

/-- Starts a run, unless its id is tracked. -/
def start (r : RunRequest) (e : Engine) : Except RunError Engine :=
  match e.registry.register r.executionId r.workflowId with
  | .error error => .error error
  | .ok (registry, registration) =>
    let e := e.withRegistry registry
    let task := EngineState.runTask e.dispatcher e.policy registration r
    .ok { e with scheduler := e.scheduler.spawn task }

/-- Waits for the outcome of a run. It would be an error if the tasks came to an end before the
waiter is answered, but they do not. -/
def wait (id : String) (e : Engine) : Except RunError (Outcome × Engine) :=
  match e.registry.subscribe id with
  | .error error => .error error
  | .ok registration =>
    let e := e.runUntil fun s => (s.registry.poll id registration).isSome
    match e.registry.poll id registration with
    | some answer => answer.map fun outcome => (outcome, e)
    | none => .error (.orchestration ("Run '" ++ id ++ "' is not answered"))

/-- Starts a run and waits for its outcome. -/
def run (r : RunRequest) (e : Engine) : Except RunError (Outcome × Engine) :=
  match e.start r with
  | .error error => .error error
  | .ok e => e.wait r.executionId

/-- The report on a run. -/
def status (id : String) (e : Engine) : Except RunError StatusReport :=
  e.registry.report id

/-- Asks a run to stop. -/
def cancel (id : String) (e : Engine) : Except RunError (Bool × Engine) :=
  match e.registry.cancel id with
  | .error error => .error error
  | .ok (registry, accepted) => .ok (accepted, e.withRegistry registry)

/-- Drops a run that has ended. -/
def forget (id : String) (e : Engine) : Bool × Engine :=
  let (registry, dropped) := e.registry.forget id
  (dropped, e.withRegistry registry)

/-- The events of a run so far. -/
def events (id : String) (e : Engine) : List EventKind :=
  eventsOf id e.state.channel.sent

/-- Waits for an event among those from a position on. The answer is the position behind it, or none
if it never comes. -/
def waitForEvent (event : Event) (position : Nat) (e : Engine) : Option Nat × Engine :=
  let e := e.runUntil fun s => (s.channel.sent.drop position).contains event
  (((e.state.channel.sent.drop position).idxOf? event).map fun i => position + i + 1, e)

/-- Closes the browser session, once nobody else uses it. -/
def shutdown (e : Engine) : Engine :=
  if e.scheduler.isLocked then
    let i := e.scheduler.tasks.length
    let waiting := e.scheduler.enter (onSession Session.closing)
    { e with scheduler := waiting.run fun s => (s.tasks[i]?.getD none).isNone }
  else e.changed fun s => EngineState.withSession s.session.shutdown s

end Engine

end Automation
