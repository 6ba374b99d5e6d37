import Automation.Browser.Action
import Automation.Browser.Backend
import Automation.Config.Basic
import Automation.Execution.Result
import Automation.Text.Base64

/-!
# The manager of the session

All browser actions share one session: a process, a browsing context and a page. Whoever uses it
holds the lock on its state. A session that is gone or unusable is torn down, page before context
before process, and another one is launched; every launch is a new generation. An action that fails
because the session is gone is tried again on a new session, a bounded number of times.

An observer per generation waits for the process to go away.
-/

namespace Automation

/-- The lifecycle of the session. -/
inductive SessionStatus where
  | uninitialized
  | ready
  | disconnected
  | closed
  deriving Repr, DecidableEq

/-- The name of a status. -/
def SessionStatus.name : SessionStatus → String
  | uninitialized => "uninitialized"
  | ready => "ready"
  | disconnected => "disconnected"
  | closed => "closed"

/-- What is known of the session. -/
structure SessionState where
  status : SessionStatus
  /-- The number of launches so far. -/
  generation : Nat
  /-- The launched session that is in use. -/
  current : Option Nat
  deriving Repr, DecidableEq

namespace SessionState

/-- No session yet. -/
def start : SessionState := ⟨.uninitialized, 0, none⟩

/-- The state with a new status. -/
def withStatus (status : SessionStatus) (s : SessionState) : SessionState :=
  { s with status }

/-- The state without a session. -/
def released (s : SessionState) : SessionState :=
  { s with current := none }

/-- The state with a launched session in use. -/
def adopted (index : Nat) (s : SessionState) : SessionState :=
  { s with generation := s.generation + 1, current := some index }

/-- What an observer does after the process of its generation went away. -/
def observe (generation : Nat) (s : SessionState) : SessionState :=
  if s.generation = generation ∧ s.status = .ready then s.withStatus .disconnected else s

end SessionState

/-- A computation that holds the lock on the state of the session. -/
abbrev Managed (m : Type → Type) := StateT SessionState m

namespace Browser

section

variable {m : Type → Type} [Monad m] (b : Browser m)

/-! ## Sessions -/

/-- The launched session in use, if it can take calls. -/
def usable? : Managed m (Option Nat) := do
  match (← get).current with
  | none => pure none
  | some index =>
    let usable ← b.isUsable index
    pure (if usable then some index else none)

/-- Whether the session is ready. -/
def isReady : Managed m Bool := do
  if (← get).status = .ready then
    let index ← b.usable?
    pure index.isSome
  else pure false

/-- Closes the launched session in use, one part after another, even if closing one fails. -/
def teardown : Managed m Unit := do
  match (← get).current with
  | none => pure ()
  | some index =>
    modify SessionState.released
    let _ ← b.close index .page
    let _ ← b.close index .context
    let _ ← b.close index .process

/-- Launches a session up to a number of times until one can take calls. The last error is the
answer if none can. -/
def launchUsable : Nat → BrowserError → Managed m (Except BrowserError Nat)
  | 0, last => pure (.error last)
  | tries + 1, _ => do
    b.teardown
    modify (SessionState.withStatus .disconnected)
    match ← b.launch with
    | .error e => launchUsable tries e
    | .ok index =>
      modify (SessionState.adopted index)
      let generation := (← get).generation
      b.watch index generation
      match ← b.usable? with
      | some _ =>
        modify (SessionState.withStatus .ready)
        pure (.ok generation)
      | none => launchUsable tries .unusable

/-- Sees to it that the session is ready, and answers its generation. -/
def acquire : Managed m (Except BrowserError Nat) := do
  if ← b.isReady then
    let s ← get
    pure (.ok s.generation)
  else b.launchUsable 2 .unusable

/-- Closes the session. A later action launches another one. -/
def shutdown : Managed m Unit := do
  b.teardown
  modify (SessionState.withStatus .closed)

/-! ## Actions -/

/-- Goes to an address, again up to a number of times, after a pause, when it fails in a way that
allows it. -/
def goto (index backoff : Nat) (url : String) : Nat → m (Except BrowserError (Option Nat))
  | 0 => b.call index (.goto url)
  | retries + 1 => do
    match ← b.call index (.goto url) with
    | .ok status => pure (.ok status)
    | .error e =>
      if e.isNavigationRetryable then
        b.sleep backoff
        goto index backoff url retries
      else pure (.error e)

/-- The fields that tell what a navigation answered. A missing response and one that is no success
make a warning. -/
def withNavigationStatus (status : Option Nat) (r : NodeResult) : NodeResult :=
  match status with
  | some code =>
    let r := r.with "status" (.ofNat code)
    if 200 ≤ code ∧ code < 300 then r
    else r.with "warning" (.string ("navigation returned HTTP " ++ toString code))
  | none => r.with "warning" (.string "navigation returned no response")

/-- Navigates. -/
def navigate (config : BrowserConfig) (index : Nat) (url : String) :
    ExceptT BrowserError m NodeResult := do
  let status ← ExceptT.mk (b.goto index config.navigationBackoffMs url config.maxNavigationRetries)
  let title ← ExceptT.mk (b.title index)
  let reached ← ExceptT.mk (b.url index)
  pure (withNavigationStatus status
    ((NodeResult.succeeded.with "url" (.string (reached.getD url))).with "title"
      (.string (title.getD ""))))

variable [Web.Library]

/-- Does what an action asks for, on the page of a launched session. -/
def execute (config : BrowserConfig) (a : BrowserAction) (index : Nat) :
    ExceptT BrowserError m NodeResult := do
  match a.action with
  | .navigate =>
    let url ← ExceptT.mk (pure (normalizeUrl (a.url.getD "")))
    b.navigate config index url
  | .click =>
    ExceptT.mk (b.call index (.waitFor a.selectorText))
    ExceptT.mk (b.call index (.click a.selectorText))
    pure .succeeded
  | .type =>
    ExceptT.mk (b.call index (.waitFor a.selectorText))
    ExceptT.mk (b.call index (.fill a.selectorText a.inputText))
    pure .succeeded
  | .select =>
    ExceptT.mk (b.call index (.waitFor a.selectorText))
    ExceptT.mk (b.call index (.choose a.selectorText a.inputText))
    pure .succeeded
  | .waitForSelector =>
    ExceptT.mk (b.call index (.waitFor a.selectorText))
    pure .succeeded
  | .waitForNavigation =>
    ExceptT.mk (b.call index .waitForNavigation)
    let url ← ExceptT.mk (b.url index)
    pure (NodeResult.succeeded.with "url" (.string (url.getD "")))
  | .screenshot =>
    let image ← ExceptT.mk (b.call index (.screenshot (a.optionFlag "fullPage")))
    pure (NodeResult.succeeded.with "screenshot" (.string (Text.base64 image)))
  | .extractData =>
    ExceptT.mk (b.call index (.waitFor a.selectorText))
    let data ← ExceptT.mk (b.call index (.extract a.selectorText (a.optionFlag "textOnly")))
    pure (NodeResult.succeeded.with "data" (.array data))

/-- One attempt at an action: on a session that is ready and, once more, usable. -/
def attempt (config : BrowserConfig) (a : BrowserAction) :
    Managed m (Except BrowserError NodeResult) := do
  match ← b.acquire with
  | .error e => pure (.error e)
  | .ok _ =>
    match ← b.usable? with
    | none => pure (.error (.targetClosed "session became unusable before the action ran"))
    | some index => (b.execute config a index).run

/-- Notes that the session is lost, if that is what an error means. -/
def noteLoss (e : BrowserError) : Managed m Unit :=
  if e.isConnectionLoss then modify (SessionState.withStatus .disconnected) else pure ()

/-- Attempts an action, again whenever the session is lost, up to a number of times. -/
def attempts (config : BrowserConfig) (a : BrowserAction) : Nat → Managed m NodeResult
  | 0 => do
    match ← b.attempt config a with
    | .ok r => pure r
    | .error e =>
      noteLoss e
      pure (.failed e.message)
  | retries + 1 => do
    match ← b.attempt config a with
    | .ok r => pure r
    | .error e =>
      noteLoss e
      if e.isConnectionLoss then attempts config a retries else pure (.failed e.message)

/-- Performs an action. A failure is its result. The lock is taken for a request that is in order
only. -/
def perform {n : Type → Type} [Monad n] (locked : Managed m NodeResult → n NodeResult)
    (config : BrowserConfig) (a : BrowserAction) : n NodeResult :=
  match a.validate with
  | .error e => pure (.failed e.message)
  | .ok _ => locked (b.attempts config a config.maxActionRetries)

end

end Browser

end Automation
