import Automation.Value.Reader
import Automation.Web.Request

/-!
# The libraries of the web that run

URLs are read as their standard says, and documents are JSON in UTF-8. The only client that there is not
is one whose user agent is no value of a header.
-/

namespace Automation.Web

/-- Reads a JSON document. -/
def readDocument (body : List UInt8) : Except String Value :=
  match (Percent.text? body).bind Value.read with
  | some v => .ok v
  | none => .error "the body holds no document"

/-- The libraries that run. -/
instance standard : Library where
  url text := (Url.parse text).mapError UrlError.message
  document := readDocument
  client _ userAgent := if isHeaderValue userAgent then .ok () else .error "builder error"

end Automation.Web
