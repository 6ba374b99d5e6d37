import Automation.Text.Base64
import Automation.Text.Case
import Automation.Value.Basic
import Automation.Web.Library

/-!
# HTTP requests

A request is checked before it is sent: its method, its URL, the names and values of its headers,
in this order, and last whether the URL can be requested at all. Credentials in a URL are sent as a
header. The network answers a request or does not. The body of an answer arrives or breaks off; what
arrives is nothing or the bytes of a document, if a document can be read from them.
-/

namespace Automation.Web

/-- Why a request has no answer. -/
inductive RequestError where
  | invalidMethod (method : String)
  /-- The URL cannot be read, or a header cannot be written. -/
  | malformed
  /-- The URL cannot be requested. -/
  | refused (url : String)
  | unanswered (url : String)
  /-- The body of the answer did not arrive. -/
  | unreadBody (reason : String)
  /-- The body of the answer holds no document. -/
  | invalidReply (status : Nat) (reason : String)
  deriving Repr, DecidableEq

/-- The wording of an error. -/
def RequestError.message : RequestError → String
  | invalidMethod method => "Invalid HTTP method '" ++ method ++ "': invalid HTTP method"
  | malformed => "Request failed: builder error"
  | refused url => "Request failed: builder error for url (" ++ url ++ ")"
  | unanswered url => "Request failed: error sending request for url (" ++ url ++ ")"
  | unreadBody reason => "Failed to read response body: " ++ reason
  | invalidReply status reason =>
    "Invalid JSON response (HTTP " ++ toString status ++ "): " ++ reason

/-- A request that can be sent. -/
structure Request where
  method : String
  url : Url
  /-- The headers with names in lower case. -/
  headers : List (String × String)
  body : String

/-- An answer to a request. -/
structure Reply where
  status : Nat
  /-- The bytes of the body, or the reason why they did not arrive. -/
  body : Except String (List UInt8)

/-- What answers requests; no answer is a failure of the transport. -/
abbrev Network := Request → Option Reply

/-! ## Methods and headers -/

/-- Whether a character may stand in a method. -/
def isTokenChar (c : Char) : Bool :=
  c.isAlphanum || "!#$%&'*+-.^_`|~".toList.contains c

/-- Whether a text is a method. -/
def isMethod (s : String) : Bool :=
  !s.isEmpty && s.toList.all isTokenChar

/-- Whether a text is the name of a header. -/
def isHeaderName (s : String) : Bool :=
  !s.isEmpty && s.toList.all fun c => isTokenChar c || c == '"'

/-- Whether a text is the value of a header: it has no control but the tabulator. -/
def isHeaderValue (s : String) : Bool :=
  s.toList.all fun c => c == '\t' || !Percent.controls c

/-- Whether headers can be written. -/
def areHeaders (headers : List (String × String)) : Bool :=
  headers.all fun h => isHeaderName h.1 && isHeaderValue h.2

/-- Whether there is a header of a name; the case of letters does not count. -/
def hasHeader (name : String) (headers : List (String × String)) : Bool :=
  headers.any fun h => h.1.toLower == name

/-! ## URLs -/

namespace Url

/-- A part of the user information, decoded. -/
def decodedPart (part : String) : Option String :=
  Percent.text? (Percent.decode part.toList)

/-- The name and the password that a URL carries, if it carries any that can be decoded. -/
def credentials? (a : Authority) : Option (String × Option String) :=
  match decodedPart a.username with
  | none => none
  | some name =>
    let password := if a.password = "" then none else decodedPart a.password
    if name = "" ∧ password = none then none else some (name, password)

/-- A URL without credentials, and what they were. -/
def splitCredentials (u : Url) : Url × Option (String × Option String) :=
  match u.authority with
  | none => (u, none)
  | some a =>
    match credentials? a with
    | none => (u, none)
    | some found => ({ u with authority := some { a with username := "", password := "" } }, some found)

/-- Whether a URL can be requested: the scheme is that of the web, the host has no brace or quote,
and the text is not too long. -/
def isRequestable (u : Url) : Bool :=
  (u.scheme == "http" || u.scheme == "https") &&
    !((u.authority.bind Authority.host).any fun h =>
      h.text.toList.any fun c => "\"`\x7b\x7d".toList.contains c) &&
    decide (u.text.utf8ByteSize < 65535)

end Url

/-! ## Requests -/

namespace Request

/-- The header that carries credentials. -/
def authorization (credentials : String × Option String) : String × String :=
  let text := credentials.1 ++ ":" ++ credentials.2.getD ""
  ("authorization", "Basic " ++ Text.base64 text.toUTF8.toList)

/-- A request with a method, a URL, headers and a body, from a user agent. -/
def build [Library] (userAgent method url : String) (headers : List (String × String))
    (body : String) : Except RequestError Request :=
  if isMethod (Text.uppercase method) = false then .error (.invalidMethod method)
  else
    match Library.url url with
    | .error _ => .error .malformed
    | .ok parsed =>
      if parsed.hasHost = false then .error (.refused parsed.text)
      else if areHeaders headers = false then .error .malformed
      else
        let (target, credentials) := parsed.splitCredentials
        if target.isRequestable = false then .error (.refused target.text)
        else
          let agent := if hasHeader "user-agent" headers then [] else [("user-agent", userAgent)]
          let given := headers.map fun h => (h.1.toLower, h.2)
          .ok ⟨Text.uppercase method, target,
            (credentials.map authorization).toList ++ given ++ agent, body⟩

/-- Sends a request. The answer is a status and the document of the body, in normal form. -/
def send [Library] (network : Network) (r : Request) : Except RequestError (Nat × Value) :=
  match network r with
  | none => .error (.unanswered r.url.text)
  | some reply =>
    match reply.body with
    | .error reason => .error (.unreadBody reason)
    | .ok [] => .ok (reply.status, .null)
    | .ok body =>
      match Library.document body with
      | .ok data => .ok (reply.status, data.normalize)
      | .error reason => .error (.invalidReply reply.status reason)

end Request

end Automation.Web
