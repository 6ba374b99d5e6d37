import Automation.Value.Basic
import Automation.Web.Url

/-!
# The libraries of the web

What is taken from libraries where a page or a server is asked for something: how a URL is read, how the
document of a body is read, and whether there can be a client. The reasons of what they refuse are
theirs.
-/

namespace Automation.Web

/-- The libraries that URLs, documents and clients come from. -/
class Library where
  /-- Reads an absolute URL, or gives the reason why a text is none. -/
  url (text : String) : Except String Url
  /-- Reads the document of a body, or gives the reason why it has none. -/
  document (body : List UInt8) : Except String Value
  /-- Makes a client with a timeout in seconds and a user agent, or gives the reason why there is
  none. -/
  client (timeout : Nat) (userAgent : String) : Except String Unit

end Automation.Web
