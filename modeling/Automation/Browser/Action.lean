import Automation.Browser.Error
import Automation.Graph.Node
import Automation.Text.Blank
import Automation.Web.Library

/-!
# Requests to the browser

What has to hold of a browser action before a browser is asked, and the address that a navigation
goes to. A request that fails here is never tried again.
-/

namespace Automation

namespace ActionType

/-- Whether the action needs an element. -/
def needsSelector (a : ActionType) : Bool :=
  [click, type, select, waitForSelector, extractData].contains a

/-- Whether the action needs a text. -/
def needsText (a : ActionType) : Bool :=
  [type, select].contains a

end ActionType

/-- Whether a text names its scheme. -/
def namesScheme (text : String) : Bool :=
  Text.contains text "://" || Text.startsWith text "about:" || Text.startsWith text "data:"

/-- The address of a navigation: a text without a scheme is the address of a secure host. It has to
be a URL. -/
def normalizeUrl [Web.Library] (raw : String) : Except BrowserError String :=
  let trimmed := Text.trim raw
  let candidate := if namesScheme trimmed then trimmed else "https://" ++ trimmed
  match Web.Library.url candidate with
  | .ok _ => .ok candidate
  | .error reason => .error (.invalidUrl raw reason)

namespace BrowserAction

/-- The element of the action. -/
def selectorText (a : BrowserAction) : String := a.selector.getD ""

/-- The text of the action. -/
def inputText (a : BrowserAction) : String := a.text.getD ""

/-- Checks an action. -/
def validate [Web.Library] (a : BrowserAction) : Except BrowserError Unit :=
  if a.action.needsSelector ∧ a.selectorText = "" then
    .error (.validation (a.action.name ++ " action requires a selector"))
  else if a.action.needsText ∧ a.inputText = "" then
    .error (.validation (a.action.name ++ " action requires non-empty text"))
  else if a.action = .navigate then
    if Text.trim (a.url.getD "") = "" then
      .error (.validation "navigate action requires a url")
    else (normalizeUrl (a.url.getD "")).map fun _ => ()
  else .ok ()

end BrowserAction

end Automation
