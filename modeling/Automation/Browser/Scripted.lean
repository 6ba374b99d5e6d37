import Automation.Browser.Backend

/-!
# The scripted browser

A browser in memory. It follows a script of failures, and it keeps a record of every session that it
launched: the calls to its page, and how often each of its parts was closed.
-/

namespace Automation

/-- The operations that the script can let fail. -/
inductive Operation where
  | launch
  | goto
  | waitFor
  | click
  | fill
  | choose
  | waitForNavigation
  | screenshot
  | extract
  | closePage
  | closeContext
  | closeProcess
  deriving Repr, DecidableEq

namespace PageCall

/-- The record of a call. -/
def text : PageCall → String
  | goto url => "goto " ++ url
  | waitFor selector => "wait " ++ selector
  | click selector => "click " ++ selector
  | fill selector text => "fill " ++ selector ++ " " ++ text
  | choose selector value => "select " ++ selector ++ " " ++ value
  | waitForNavigation => "wait_for_navigation"
  | screenshot fullPage => "screenshot full_page=" ++ toString fullPage
  | extract selector textOnly => "extract " ++ selector ++ " text_only=" ++ toString textOnly

/-- The operation of a call. -/
def operation : PageCall → Operation
  | goto _ => .goto
  | waitFor _ => .waitFor
  | click _ => .click
  | fill _ _ => .fill
  | choose _ _ => .choose
  | waitForNavigation => .waitForNavigation
  | screenshot _ => .screenshot
  | extract _ _ => .extract

end PageCall

/-- The operation that closes a part. -/
def SessionPart.operation : SessionPart → Operation
  | page => .closePage
  | context => .closeContext
  | process => .closeProcess

/-- A launched session: a process with a browsing context and a page in it. -/
structure LaunchedSession where
  connected : Bool
  pageClosed : Bool
  /-- Whether the loss of the process was signalled. -/
  signalled : Bool
  calls : List PageCall
  pageCloses : Nat
  contextCloses : Nat
  processCloses : Nat
  deriving Repr, DecidableEq

namespace LaunchedSession

/-- A session without calls. -/
def fresh (connected : Bool) : LaunchedSession := ⟨connected, false, false, [], 0, 0, 0⟩

/-- Whether the session can take calls. -/
def isUsable (s : LaunchedSession) : Bool := s.connected && !s.pageClosed

/-- The address of the page: that of the last navigation. -/
def url (s : LaunchedSession) : String :=
  s.calls.foldl (fun url call =>
    match call with
    | .goto u => u
    | _ => url) "about:blank"

/-- The session after one of its parts was closed. -/
def closed (s : LaunchedSession) : SessionPart → LaunchedSession
  | .page => { s with pageClosed := true, pageCloses := s.pageCloses + 1 }
  | .context => { s with contextCloses := s.contextCloses + 1 }
  | .process => { s with connected := false, processCloses := s.processCloses + 1 }

end LaunchedSession

/-- The browser with its script. -/
structure ScriptedBrowser where
  /-- The failures to come, in the order in which they were asked for. -/
  failures : List (Operation × BrowserError)
  sessions : List LaunchedSession
  /-- How many launches to come give a session whose process is gone already. -/
  unusableLaunches : Nat
  /-- What navigations answer; none is no response. -/
  navigationStatus : Option Nat
  extracted : List Value
  /-- How long an operation on a page takes, in milliseconds. -/
  delay : Nat

namespace ScriptedBrowser

/-- A browser that lets nothing fail. -/
def fresh : ScriptedBrowser := ⟨[], [], 0, some 200, [], 0⟩

/-- The first failure of an operation, and the failures without it. -/
def firstFailure (op : Operation) :
    List (Operation × BrowserError) → Option BrowserError × List (Operation × BrowserError)
  | [] => (none, [])
  | (o, e) :: rest =>
    if o = op then (some e, rest)
    else
      let (found, left) := firstFailure op rest
      (found, (o, e) :: left)

/-- Takes the next failure of an operation. -/
def takeFailure (b : ScriptedBrowser) (op : Operation) : Option BrowserError × ScriptedBrowser :=
  let (found, left) := firstFailure op b.failures
  (found, { b with failures := left })

/-- Changes a session. -/
def update (b : ScriptedBrowser) (index : Nat) (f : LaunchedSession → LaunchedSession) :
    ScriptedBrowser :=
  { b with sessions := b.sessions.modify index f }

/-- Launches a session. -/
def launch (b : ScriptedBrowser) : Except BrowserError Nat × ScriptedBrowser :=
  match b.takeFailure .launch with
  | (some e, b) => (.error e, b)
  | (none, b) =>
    let session := LaunchedSession.fresh (b.unusableLaunches == 0)
    (.ok b.sessions.length,
      { b with
        unusableLaunches := b.unusableLaunches - 1
        sessions := b.sessions ++ [session] })

/-- Whether a session can take calls. -/
def isUsable (b : ScriptedBrowser) (index : Nat) : Bool :=
  (b.sessions[index]?).any LaunchedSession.isUsable

/-- Makes a call to the page of a session. A call that fails is not recorded. -/
def call (b : ScriptedBrowser) (index : Nat) (c : PageCall) :
    Except BrowserError Unit × ScriptedBrowser :=
  match b.takeFailure c.operation with
  | (some e, b) => (.error e, b)
  | (none, b) =>
    match b.sessions[index]? with
    | none => (.error (.targetClosed "browser has been closed"), b)
    | some session =>
      if !session.connected then (.error (.targetClosed "browser has been closed"), b)
      else if session.pageClosed then (.error (.targetClosed "page closed"), b)
      else (.ok (), b.update index fun s => { s with calls := s.calls ++ [c] })

/-- The picture of every page. -/
def pageImage : List UInt8 := [0x89, 0x50, 0x4E, 0x47, 0x20, 0x6D, 0x6F, 0x63, 0x6B]

/-- What a call that was recorded answers. -/
def reply (b : ScriptedBrowser) : (c : PageCall) → c.Answer
  | .goto _ => b.navigationStatus
  | .screenshot _ => pageImage
  | .extract _ _ => b.extracted
  | .waitFor _ | .click _ | .fill _ _ | .choose _ _ | .waitForNavigation => ()

/-- The address of the page of a session. -/
def url (b : ScriptedBrowser) (index : Nat) : String :=
  ((b.sessions[index]?).map LaunchedSession.url).getD "about:blank"

/-- The title of every page. -/
def pageTitle : String := "Mock Page"

/-- Closes a part of a session, even if closing it fails. -/
def close (b : ScriptedBrowser) (index : Nat) (part : SessionPart) :
    Except BrowserError Unit × ScriptedBrowser :=
  match (b.update index fun s => s.closed part).takeFailure part.operation with
  | (some e, b) => (.error e, b)
  | (none, b) => (.ok (), b)

/-- Lets the process of a session go away. -/
def disconnect (b : ScriptedBrowser) (index : Nat) : ScriptedBrowser :=
  b.update index fun s => { s with connected := false, signalled := true }

/-- Closes the page of a session from outside. -/
def closePage (b : ScriptedBrowser) (index : Nat) : ScriptedBrowser :=
  b.update index fun s => { s with pageClosed := true }

section

variable {m : Type → Type} [Monad m]

/-- The scripted browser as one that sessions use. It is kept somewhere and works in atomic steps;
how it is kept, what waits for the loss of a process and how time passes, is given. A call takes the
time that operations take, whether it succeeds or not. -/
def backend (step : {α : Type} → (ScriptedBrowser → α × ScriptedBrowser) → m α)
    (watch : Nat → Nat → m Unit) (sleep : Nat → m Unit) : Browser m where
  launch := step launch
  isUsable index := step fun b => (b.isUsable index, b)
  call index c := do
    sleep (← step fun b => (b.delay, b))
    match ← step fun b => b.call index c with
    | .error e => pure (.error e)
    | .ok () => step fun b => (.ok (b.reply c), b)
  url index := step fun b => (.ok (some (b.url index)), b)
  title _ := pure (.ok (some pageTitle))
  close index part := step fun b => b.close index part
  watch := watch
  sleep := sleep

end

end ScriptedBrowser

end Automation
