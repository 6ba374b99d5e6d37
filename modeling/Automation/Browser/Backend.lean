import Automation.Browser.Error
import Automation.Value.Basic

/-!
# The seam between a session and a browser

What a session needs from whatever drives its browser. A browser works in some monad, so that a
session is the same whether its browser is shared with others, recorded, or nothing but given
answers. Whoever uses a browser knows a launched session by the number that its launch answered.
-/

namespace Automation

/-- A call to a page. -/
inductive PageCall where
  | goto (url : String)
  | waitFor (selector : String)
  | click (selector : String)
  | fill (selector text : String)
  | choose (selector value : String)
  | waitForNavigation
  | screenshot (fullPage : Bool)
  | extract (selector : String) (textOnly : Bool)
  deriving Repr, DecidableEq

/-- What a call answers: a navigation the status of its response, if there is one, a screenshot an
image, and an extraction what was found. -/
abbrev PageCall.Answer : PageCall → Type
  | goto _ => Option Nat
  | screenshot _ => List UInt8
  | extract _ _ => List Value
  | _ => Unit

/-- The parts of a launched session: a process with a browsing context and a page in it. -/
inductive SessionPart where
  | page
  | context
  | process
  deriving Repr, DecidableEq

/-- What drives a browser. -/
structure Browser (m : Type → Type) where
  /-- Launches a session. -/
  launch : m (Except BrowserError Nat)
  /-- Whether the process of a launched session is there and its page open. -/
  isUsable : Nat → m Bool
  /-- Calls the page of a launched session. -/
  call : Nat → (c : PageCall) → m (Except BrowserError c.Answer)
  /-- The address of a page. -/
  url : Nat → m (Except BrowserError (Option String))
  /-- The title of a page. -/
  title : Nat → m (Except BrowserError (Option String))
  /-- Closes a part of a launched session. -/
  close : Nat → SessionPart → m (Except BrowserError Unit)
  /-- Has an observer wait, on behalf of a generation, for the process of a launched session to go
  away. -/
  watch : Nat → Nat → m Unit
  /-- Lets some time pass, in milliseconds. -/
  sleep : Nat → m Unit

end Automation
