import Automation.Web.Host

/-!
# URLs

Absolute URLs. Reading one brings it into normal form: scheme and host are in lower case, a port that
the scheme implies is left out, dot segments are resolved, and characters that the place does not
admit are percent-encoded. Blanks and controls around a URL and line breaks inside it do not count.
-/

namespace Automation.Web

/-- The kinds of schemes, which differ in how the rest is read. -/
inductive SchemeKind where
  | file
  | special
  | other
  deriving Repr, DecidableEq

/-- The special schemes with the ports that they imply. -/
def specialPorts : List (String × Nat) :=
  [("http", 80), ("https", 443), ("ws", 80), ("wss", 443), ("ftp", 21)]

/-- The kind of a scheme. -/
def SchemeKind.of (scheme : String) : SchemeKind :=
  if scheme = "file" then .file
  else if (specialPorts.lookup scheme).isSome then .special
  else .other

/-- The path of a URL. -/
inductive Path where
  | segments (list : List String)
  | opaqueText (text : String)
  deriving Repr, DecidableEq

/-- What stands between two slashes and the path. -/
structure Authority where
  username : String
  password : String
  host : Option Host
  port : Option Nat
  deriving Repr, DecidableEq

/-- An absolute URL. -/
structure Url where
  scheme : String
  authority : Option Authority
  path : Path
  query : Option String
  fragment : Option String
  deriving Repr, DecidableEq

namespace Url

/-! ## Paths -/

/-- Whether a character ends a segment. -/
def isSlash (kind : SchemeKind) (c : Char) : Bool :=
  c == '/' || (c == '\\' && kind != .other)

/-- Whether a character ends the path or begins what follows it. -/
def endsPath (c : Char) : Bool := c == '?' || c == '#'

/-- The segments between slashes. -/
def splitSegments (kind : SchemeKind) (text : List Char) : List (List Char) :=
  text.foldr (fun c parts =>
    if isSlash kind c then [] :: parts
    else
      match parts with
      | [] => [[c]]
      | part :: rest => (c :: part) :: rest) [[]]

/-- Whether a segment is a single dot. -/
def isDot (segment : String) : Bool :=
  [".", "%2e"].contains segment.toLower

/-- Whether a segment is two dots. -/
def isDoubleDot (segment : String) : Bool :=
  ["..", "%2e.", ".%2e", "%2e%2e"].contains segment.toLower

/-- Whether a text is a drive: a letter and a colon or bar. -/
def isDrive (text : List Char) : Bool :=
  match text with
  | [a, b] => a.isAlpha && (b == ':' || b == '|')
  | _ => false

/-- The segments so far without the last one. A drive at the beginning of a file path stays. -/
def withoutLast (kind : SchemeKind) (done : List String) : List String :=
  match done with
  | [only] => if kind = .file ∧ isDrive only.toList then done else []
  | _ => done.dropLast

/-- A segment in its place. A drive at the beginning of a file path is written with a colon. -/
def placed (kind : SchemeKind) (done : List String) (segment : String) : String :=
  if kind = .file ∧ done = [] ∧ isDrive segment.toList then
    String.ofList (segment.toList.take 1 ++ [':'])
  else segment

/-- Resolves dot segments, in order. -/
def resolve (kind : SchemeKind) (done : List String) : List String → List String
  | [] => done
  | segment :: rest =>
    if isDoubleDot segment then
      let shorter := withoutLast kind done
      resolve kind (if rest.isEmpty then shorter ++ [""] else shorter) rest
    else if isDot segment then resolve kind (if rest.isEmpty then done ++ [""] else done) rest
    else resolve kind (done ++ [placed kind done segment]) rest

/-- A file path without empty segments at its beginning. -/
def withoutEmpty : List String → List String
  | "" :: s :: rest => withoutEmpty (s :: rest)
  | segments => segments

/-- The segments of a path; a slash at its beginning belongs to no segment. -/
def readSegments (kind : SchemeKind) (text : List Char) : List String :=
  let relative :=
    match text with
    | c :: rest => if isSlash kind c then rest else text
    | [] => []
  let segments :=
    resolve kind [] ((splitSegments kind relative).map (Percent.encode Percent.path))
  if kind = .file then withoutEmpty segments else segments

/-- The path behind an authority. Only the path of a special scheme is never empty. -/
def readPath (kind : SchemeKind) (text : List Char) : Path :=
  if kind = .other ∧ text = [] then .segments [] else .segments (readSegments kind text)

/-! ## Authorities -/

/-- Whether a character ends an authority. -/
def endsAuthority (kind : SchemeKind) (c : Char) : Bool := isSlash kind c || endsPath c

/-- The user information before the last `@`, if there is one, and what follows it. -/
def splitUserinfo (text : List Char) : Option (List Char) × List Char :=
  let host := (text.reverse.takeWhile fun c => c ≠ '@').reverse
  if host.length = text.length then (none, text)
  else (some (text.take (text.length - host.length - 1)), host)

/-- The name and the password of user information, encoded. -/
def credentials (userinfo : List Char) : String × String :=
  let name := userinfo.takeWhile fun c => c ≠ ':'
  let password := (userinfo.dropWhile fun c => c ≠ ':').drop 1
  (Percent.encode Percent.userinfo name, Percent.encode Percent.userinfo password)

/-- The host text and what follows it. A colon between brackets does not end it. -/
def splitHost (inside : Bool) : List Char → List Char × List Char
  | [] => ([], [])
  | c :: rest =>
    if c = ':' ∧ inside = false then ([], c :: rest)
    else
      let inside := if c = '[' then true else if c = ']' then false else inside
      let (host, behind) := splitHost inside rest
      (c :: host, behind)

/-- Reads a port behind its colon. A port without digits is none. -/
def readPort (digits : List Char) : Except UrlError (Option Nat) :=
  if digits.isEmpty then .ok none
  else
    match readNumber? 10 digits with
    | some n => if n ≤ 65535 then .ok (some n) else .error .invalidPort
    | none => .error .invalidPort

/-- Reads a port as far as it goes. Unless the scheme is special, a backslash ends it. -/
def readPortPart (kind : SchemeKind) (text : List Char) :
    Except UrlError (Option Nat × List Char) := do
  let digits := text.takeWhile fun c => kind != .other || c ≠ '\\'
  let port ← readPort digits
  pure (port, text.drop digits.length)

/-- The port, unless the scheme implies it. -/
def explicitPort (scheme : String) (port : Option Nat) : Option Nat :=
  if port = specialPorts.lookup scheme then none else port

/-- Reads an authority; `atEnd` says that nothing follows it. The second part of the answer is what
belongs to the path although no slash comes before it. -/
def readAuthority (scheme : String) (text : List Char) (atEnd : Bool) :
    Except UrlError (Authority × List Char) := do
  let kind := SchemeKind.of scheme
  let (userinfo, rest) := splitUserinfo text
  if userinfo = some [] ∧ rest = [] ∧ atEnd = false then throw .emptyHost
  let (username, password) := credentials (userinfo.getD [])
  let (hostText, behind) := splitHost false rest
  let host ←
    if kind = .special then
      if hostText.isEmpty then throw .emptyHost else Host.read hostText
    else Host.readOpaque hostText
  if host.isEmpty ∧ behind ≠ [] then throw .emptyHost
  let (port, left) ← readPortPart kind (behind.drop 1)
  if host.isEmpty ∧ (username ≠ "" ∨ password ≠ "") then throw .emptyHost
  pure
    (⟨username, password, if host.isEmpty then none else some host, explicitPort scheme port⟩, left)

/-- The authority of a file URL, or nothing if a drive stands in its place. -/
def readFileHost (text : List Char) : Except UrlError (Option Authority) :=
  if isDrive text then .ok none
  else if text.isEmpty then .ok (some ⟨"", "", none, none⟩)
  else do
    let host ← Host.read text
    pure (some ⟨"", "", if host = .name "localhost" then none else some host, none⟩)

/-! ## Whole URLs -/

/-- The scheme and what follows its colon. -/
def splitScheme (text : List Char) : Option (String × List Char) :=
  match text with
  | c :: _ =>
    let scheme := text.takeWhile fun c => c.isAlphanum || c == '+' || c == '-' || c == '.'
    match c.isAlpha, text.drop scheme.length with
    | true, ':' :: rest => some ((String.ofList scheme).toLower, rest)
    | _, _ => none
  | [] => none

/-- The text before the query and fragment, the query and the fragment. -/
def splitTail (text : List Char) : List Char × Option (List Char) × Option (List Char) :=
  let body := text.takeWhile fun c => c ≠ '#'
  let fragment :=
    match text.drop body.length with
    | _ :: rest => some rest
    | [] => none
  let path := body.takeWhile fun c => c ≠ '?'
  let query :=
    match body.drop path.length with
    | _ :: rest => some rest
    | [] => none
  (path, query, fragment)

/-- Reads what follows two slashes: an authority and a path; `atEnd` says that no query or fragment
follows. -/
def readHierarchy (scheme : String) (text : List Char) (atEnd : Bool) :
    Except UrlError (Option Authority × Path) := do
  let kind := SchemeKind.of scheme
  let authority := text.takeWhile fun c => !isSlash kind c
  let behind := text.drop authority.length
  let (a, left) ← readAuthority scheme authority (atEnd && behind.isEmpty)
  pure (some a, readPath kind (left ++ behind))

/-- Reads a file URL behind its scheme. A drive in its path leaves no host. -/
def readFile (text : List Char) : Except UrlError (Option Authority × Path) := do
  let nobody : Authority := ⟨"", "", none, none⟩
  match text with
  | a :: b :: rest =>
    if isSlash .file a && isSlash .file b then
      let hostText := rest.takeWhile fun c => !isSlash .file c
      match ← readFileHost hostText with
      | none => pure (some nobody, readPath .file rest)
      | some authority =>
        let segments := readSegments .file (rest.drop hostText.length)
        let hasDrive := segments.head?.any fun s => isDrive s.toList
        pure (some (if hasDrive then nobody else authority), .segments segments)
    else pure (some nobody, readPath .file text)
  | _ => pure (some nobody, readPath .file text)

/-- Reads what follows the scheme up to the query. -/
def readBody (scheme : String) (text : List Char) (atEnd : Bool) :
    Except UrlError (Option Authority × Path) :=
  match SchemeKind.of scheme with
  | .file => readFile text
  | .special => readHierarchy scheme (text.dropWhile (isSlash .special)) atEnd
  | .other =>
    match text with
    | '/' :: '/' :: rest => readHierarchy scheme rest atEnd
    | '/' :: _ => .ok (none, .segments (readSegments .other text))
    | _ => .ok (none, .opaqueText (Percent.encode Percent.controls text))

/-- The text without what surrounds a URL and without line breaks and tabs. -/
def stripped (text : String) : List Char :=
  let outer (c : Char) : Bool := decide (c.toNat ≤ 0x20)
  let trimmed := ((text.toList.dropWhile outer).reverse.dropWhile outer).reverse
  trimmed.filter fun c => c ≠ '\t' ∧ c ≠ '\n' ∧ c ≠ '\r'

/-- Reads an absolute URL. -/
def parse (text : String) : Except UrlError Url :=
  match splitScheme (stripped text) with
  | none => .error .relative
  | some (scheme, rest) => do
    let (body, query, fragment) := splitTail rest
    let (authority, path) ← readBody scheme body (query.isNone && fragment.isNone)
    let querySet := if SchemeKind.of scheme = .other then Percent.query else Percent.specialQuery
    pure
      ⟨scheme, authority, path, query.map (Percent.encode querySet),
        fragment.map (Percent.encode Percent.fragment)⟩

/-! ## Writing -/

/-- The text of an authority. -/
def authorityText (a : Authority) : String :=
  let password := if a.password = "" then "" else ":" ++ a.password
  let user := if a.username ++ password = "" then "" else a.username ++ password ++ "@"
  let port := match a.port with
    | some n => ":" ++ toString n
    | none => ""
  "//" ++ user ++ (a.host.map Host.text).getD "" ++ port

/-- The text of a path. Without an authority two slashes at its beginning are kept apart. -/
def pathText (hasAuthority : Bool) : Path → String
  | .opaqueText s => s
  | .segments list =>
    let text := String.join (list.map ("/" ++ ·))
    if !hasAuthority && text.startsWith "//" then "/." ++ text else text

/-- The text of a URL. -/
def text (u : Url) : String :=
  u.scheme ++ ":" ++ (u.authority.map authorityText).getD "" ++
    pathText u.authority.isSome u.path ++ (u.query.map ("?" ++ ·)).getD "" ++
    (u.fragment.map ("#" ++ ·)).getD ""

/-- Whether the URL names a host. -/
def hasHost (u : Url) : Bool := (u.authority.bind Authority.host).isSome

/-- The URL without its fragment. -/
def withoutFragment (u : Url) : Url := { u with fragment := none }

end Url

end Automation.Web
