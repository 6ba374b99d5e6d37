import Automation.Text.Case
import Automation.Text.Split

/-!
# Errors of the browser

What can go wrong with a browser, and which errors are worth another try: an error that means that
the session is gone calls for a new session, and a navigation that ran into such an error or into a
timeout may be repeated on the same page.
-/

namespace Automation

/-- An error of the browser or of a request to it. -/
inductive BrowserError where
  | launch (message : String)
  | targetClosed (message : String)
  | connectionLost (message : String)
  | timeout (message : String)
  | invalidUrl (url reason : String)
  /-- The request itself is at fault. -/
  | validation (message : String)
  | elementNotFound (message : String)
  | unusable
  | protocol (message : String)
  deriving Repr, DecidableEq

namespace BrowserError

/-- The wording of an error. -/
def message : BrowserError → String
  | launch text => "Failed to launch browser: " ++ text
  | targetClosed text => "Target closed: " ++ text
  | connectionLost text => "Browser connection lost: " ++ text
  | timeout text => "Timeout: " ++ text
  | invalidUrl url reason => "Invalid URL '" ++ url ++ "': " ++ reason
  | validation text => text
  | elementNotFound text => "Element not found: " ++ text
  | unusable => "Browser session not usable after relaunch"
  | protocol text => "Browser protocol error: " ++ text

/-- What a message says when a browser, a context or a page went away. -/
def lossSignatures : List String :=
  ["target closed", "browser has been closed", "session closed", "connection closed",
    "context closed", "page closed"]

/-- Whether a message, in any case, says that something went away. -/
def saysLoss (text : String) : Bool :=
  let lower := Text.lowercase text
  lossSignatures.any fun signature => Text.contains lower signature

/-- The error of a message that a driver sends. -/
def ofMessage (text : String) : BrowserError :=
  if saysLoss text then connectionLost text else protocol text

/-- Whether the error means that the session is gone. -/
def isConnectionLoss (e : BrowserError) : Bool :=
  match e with
  | targetClosed _ => true
  | connectionLost _ => true
  | validation _ => false
  | invalidUrl _ _ => false
  | other => saysLoss other.message

/-- Whether a navigation that failed this way is tried again on the same page. -/
def isNavigationRetryable (e : BrowserError) : Bool :=
  match e with
  | timeout _ => true
  | other => other.isConnectionLoss

end BrowserError

end Automation
