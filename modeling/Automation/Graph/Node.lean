import Automation.Value.Decode

/-!
# Nodes

A node of a workflow: its identity, and what it does. The fields of the kind of a node stand next
to its own fields; the field `type` names the kind. A type that is not known decodes as the
unsupported kind, which validation and dispatch refuse.
-/

namespace Automation

/-- A position on the canvas of the designer. It is carried through and never interpreted. -/
structure Position where
  x : Float
  y : Float

/-- What a browser can be asked to do. -/
inductive ActionType where
  | navigate
  | click
  | type
  | select
  | waitForSelector
  | waitForNavigation
  | screenshot
  | extractData
  deriving Repr, DecidableEq

namespace ActionType

/-- The name of the action. -/
def name : ActionType → String
  | navigate => "navigate"
  | click => "click"
  | type => "type"
  | select => "select"
  | waitForSelector => "waitForSelector"
  | waitForNavigation => "waitForNavigation"
  | screenshot => "screenshot"
  | extractData => "extractData"

/-- Every action. -/
def all : List ActionType :=
  [navigate, click, type, select, waitForSelector, waitForNavigation, screenshot, extractData]

/-- The action of a name. -/
def ofName? (name : String) : Option ActionType :=
  all.find? (fun a => a.name == name)

end ActionType

/-- A browser action. -/
structure BrowserAction where
  action : ActionType
  url : Option String
  selector : Option String
  text : Option String
  /-- The timeout of the operation in milliseconds. -/
  timeout : Option Nat
  options : Fields

/-- An outbound HTTP request. -/
structure ApiCall where
  url : String
  method : String
  headers : List (String × String)
  body : Option Value

/-- A sandboxed script with bindings that go over the context. -/
structure ScriptNode where
  code : String
  context : Option Fields

/-- What a node does. -/
inductive NodeKind where
  | start
  | finish
  | task
  /-- A branching node; its outgoing edges carry the conditions. -/
  | decision
  | browserAction (action : BrowserAction)
  | delay (milliseconds : Option Nat)
  | apiCall (call : ApiCall)
  | script (script : ScriptNode)
  | unsupported

/-- A node of a workflow. -/
structure Node where
  id : String
  name : String
  description : Option String
  position : Option Position
  kind : NodeKind

/-- The first number that is no 64-bit word. -/
def wordBound : Nat := Nat.pow 2 64

namespace BrowserAction

/-- The timeout of an action that names none, in milliseconds. -/
def defaultTimeout : Nat := 30000

/-- The timeout of the action in milliseconds. -/
def timeoutMs (a : BrowserAction) : Nat :=
  a.timeout.getD defaultTimeout

/-- A switch among the options; what is no truth value is off. -/
def optionFlag (a : BrowserAction) (name : String) : Bool :=
  ((Fields.get? name a.options).bind Value.asBool?).getD false

/-- The names of the fields. -/
def fieldNames : List String :=
  ["actionType", "url", "selector", "text", "timeout", "options"]

/-- Decodes the fields of an action. The caller says how a name is read. -/
def ofRecord? (name? : Value → Option String) (r : Record) : Option BrowserAction := do
  let action ← r.required "actionType" (fun v => (name? v).bind ActionType.ofName?)
  let url ← r.optional "url" Value.asString?
  let selector ← r.optional "selector" Value.asString?
  let text ← r.optional "text" Value.asString?
  let timeout ← r.optional "timeout" (Value.asNat? wordBound)
  let options ← r.withDefault "options" Value.asObject? []
  pure ⟨action, url, selector, text, timeout, options⟩

/-- Decodes an action. -/
def ofValue? (v : Value) : Option BrowserAction :=
  (Record.ofValue? fieldNames v).bind (ofRecord? Value.asName?)

/-- The fields of an encoded action. -/
def toFields (a : BrowserAction) : List (String × Value) :=
  [("actionType", .string a.action.name)] ++ optionalField "url" .string a.url ++
    optionalField "selector" .string a.selector ++ optionalField "text" .string a.text ++
    optionalField "timeout" Value.ofNat a.timeout ++
    if a.options.isEmpty then [] else [("options", .object a.options)]

end BrowserAction

namespace ApiCall

/-- Decodes headers: texts under names. -/
def headers? (v : Value) : Option (List (String × String)) :=
  match v with
  | .object fields =>
    (fields.mapM fun (field : String × Value) =>
      field.2.asString?.map fun s => (field.1, s)).map Fields.ofPairs
  | _ => none

/-- Decodes the fields of a request. -/
def ofRecord? (r : Record) : Option ApiCall := do
  let url ← r.required "url" Value.asString?
  let method ← r.withDefault "method" Value.asString? "GET"
  let headers ← r.withDefault "headers" headers? []
  let body ← r.optional "body" (fun v => some v.normalize)
  pure ⟨url, method, headers, body⟩

/-- The fields of an encoded request. -/
def toFields (c : ApiCall) : List (String × Value) :=
  [("url", .string c.url), ("method", .string c.method)] ++
    (if c.headers.isEmpty then []
      else [("headers", .object (c.headers.map fun (k, s) => (k, .string s)))]) ++
    optionalField "body" id c.body

end ApiCall

namespace ScriptNode

/-- Decodes the fields of a script. -/
def ofRecord? (r : Record) : Option ScriptNode := do
  let code ← r.required "code" Value.asString?
  let context ← r.optional "context" Value.asObject?
  pure ⟨code, context⟩

/-- The fields of an encoded script. -/
def toFields (s : ScriptNode) : List (String × Value) :=
  [("code", .string s.code)] ++ optionalField "context" .object s.context

end ScriptNode

namespace NodeKind

/-- The name of the type. -/
def typeName : NodeKind → String
  | start => "start"
  | finish => "end"
  | task => "task"
  | decision => "decision"
  | browserAction _ => "browser_action"
  | delay _ => "delay"
  | apiCall _ => "api_call"
  | script _ => "script"
  | unsupported => "unsupported"

/-- The type names in their order, which is also their number. -/
def typeNames : List String :=
  ["start", "end", "task", "decision", "browser_action", "delay", "api_call", "script"]

/-- The type that a value names: by its name, or by its number. -/
def typeOfValue? (v : Value) : Option String :=
  match v with
  | .string s => some s
  | .number (.int n) => if 0 ≤ n then some (typeNames[n.toNat]?.getD "") else none
  | _ => none

/-- Decodes the kind of a node from the fields that are not the node's own. -/
def ofRecord? (r : Record) : Option NodeKind := do
  let type ← r.required "type" typeOfValue?
  if type = "start" then pure start
  else if type = "end" then pure finish
  else if type = "task" then pure task
  else if type = "decision" then pure decision
  else if type = "browser_action" then
    (BrowserAction.ofRecord? Value.asLooseName? r).map browserAction
  else if type = "delay" then (r.optional "milliseconds" (Value.asNat? wordBound)).map delay
  else if type = "api_call" then (ApiCall.ofRecord? r).map apiCall
  else if type = "script" then (ScriptNode.ofRecord? r).map script
  else pure unsupported

/-- The fields of an encoded kind. -/
def toFields (k : NodeKind) : List (String × Value) :=
  ("type", .string k.typeName) ::
    match k with
    | browserAction a => a.toFields
    | delay ms => optionalField "milliseconds" Value.ofNat ms
    | apiCall c => c.toFields
    | script s => s.toFields
    | _ => []

end NodeKind

namespace Position

/-- Decodes a position. -/
def ofValue? (v : Value) : Option Position := do
  let r ← Record.ofValue? ["x", "y"] v
  let x ← r.required "x" Value.asFloat?
  let y ← r.required "y" Value.asFloat?
  pure ⟨x, y⟩

/-- Encodes a position. -/
def toValue (p : Position) : Value :=
  .object [("x", .number (.float p.x)), ("y", .number (.float p.y))]

end Position

namespace Node

/-- Decodes a node, which is an object. -/
def ofValue? (v : Value) : Option Node :=
  match v with
  | .object r => do
    let id ← Record.required "id" Value.asString? r
    let name ← Record.withDefault "name" Value.asString? "" r
    let description ← Record.optional "description" Value.asString? r
    let position ← Record.optional "position" Position.ofValue? r
    let kind ← NodeKind.ofRecord? r
    pure ⟨id, name, description, position, kind⟩
  | _ => none

/-- Encodes a node: defaults are filled in, absent options are left out. -/
def toValue (n : Node) : Value :=
  .object (Fields.ofPairs
    ([("id", .string n.id), ("name", .string n.name)] ++
      optionalField "description" .string n.description ++
      optionalField "position" Position.toValue n.position ++ n.kind.toFields))

/-- Whether runs begin here. -/
def isStart (n : Node) : Bool :=
  match n.kind with
  | .start => true
  | _ => false

/-- Whether runs end here. -/
def isEnd (n : Node) : Bool :=
  match n.kind with
  | .finish => true
  | _ => false

/-- Whether conditions choose the next node. -/
def isDecision (n : Node) : Bool :=
  match n.kind with
  | .decision => true
  | _ => false

/-- Whether the engine does not know the type. -/
def isUnsupported (n : Node) : Bool :=
  match n.kind with
  | .unsupported => true
  | _ => false

end Node

end Automation
