import Automation.Activity.Basic
import Automation.Browser.Manager
import Automation.Browser.Scripted

/-!
# The browser session

The session that tasks share, and the scripted browser under it. Every operation on it holds the
lock from beginning to end. What reaches the browser meanwhile, from outside, is there at once.
-/

namespace Automation

/-- The session and the browser under it. -/
structure Session extends SessionState where
  browser : ScriptedBrowser
  /-- The launched sessions with the generations that their observers wait for. -/
  observed : List (Nat × Nat)

namespace Session

/-- No session yet. -/
def start (browser : ScriptedBrowser) : Session := ⟨.start, browser, []⟩

/-- An atomic step of the browser. -/
def onBrowser (f : ScriptedBrowser → α × ScriptedBrowser) : Activity Session α :=
  Activity.step fun s =>
    let (a, browser) := f s.browser
    (a, { s with browser })

/-- Has a launched session observed. -/
def watch (index generation : Nat) : Activity Session Unit :=
  Activity.modify fun s => { s with observed := s.observed ++ [(index, generation)] }

/-- The browser of the session. -/
def backend : Browser (Activity Session) :=
  ScriptedBrowser.backend onBrowser watch Activity.sleep

/-- Leaves the state as a computation that holds the lock leaves it. -/
def held (x : Managed (Activity Session) α) : Activity Session α := do
  let s ← Activity.get
  let (a, state) ← x.run s.toSessionState
  Activity.modify fun s => { s with toSessionState := state }
  pure a

/-- Takes the lock for a computation. -/
def locked (x : Managed (Activity Session) α) : Activity Session α :=
  Activity.locked (held x)

/-- Sees to it that the session is ready, and answers its generation. -/
def acquiring : Activity Session (Except BrowserError Nat) :=
  locked backend.acquire

/-- Performs an action. A failure is its result. -/
def perform [Web.Library] (config : BrowserConfig) (a : BrowserAction) :
    Activity Session NodeResult :=
  backend.perform locked config a

/-- Closes the session. -/
def closing : Activity Session Unit :=
  locked backend.shutdown

/-- The observer of a generation, once the process went away. -/
def observer (generation : Nat) : Activity Session Unit :=
  locked (modify (SessionState.observe generation))

/-! ## Alone

What the operations do when nobody else uses the session. -/

/-- Sees to it that the session is ready, and answers its generation. -/
def acquire (s : Session) : Except BrowserError Nat × Session :=
  let c := acquiring.run s
  (c.value, c.state)

/-- Closes the session. A later action launches another one. -/
def shutdown (s : Session) : Session :=
  (closing.run s).state

/-- What an observer does after the process of its generation went away. -/
def observe (generation : Nat) (s : Session) : Session :=
  ((observer generation).run s).state

/-! ## From outside -/

/-- The generation whose observer the loss of a launched session calls. -/
def signalOf? (s : Session) (index : Nat) : Option Nat :=
  match s.browser.sessions[index]? with
  | some session => if session.signalled then none else s.observed.lookup index
  | none => none

/-- Lets the process of a launched session go away. -/
def disconnect (index : Nat) (s : Session) : Session :=
  { s with browser := s.browser.disconnect index }

/-- Closes the page of a launched session from outside. -/
def closePage (index : Nat) (s : Session) : Session :=
  { s with browser := s.browser.closePage index }

end Session

end Automation
