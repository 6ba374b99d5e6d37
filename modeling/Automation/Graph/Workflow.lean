import Automation.Graph.Node
import Automation.Text.Blank
import Automation.Timestamp

/-!
# Edges and workflows

A workflow is a list of nodes and a list of directed edges. `Workflow.validate` reports what is
wrong with a graph: errors make it impossible to run, warnings flag graphs that run but probably
do not do what their author meant.
-/

namespace Automation

/-- A directed transition between two nodes. -/
structure Edge where
  id : String
  source : String
  target : String
  label : Option String
  /-- The guard of an edge that leaves a decision. -/
  condition : Option String
  deriving Repr, DecidableEq

namespace Edge

/-- The guard of the edge without blanks around it. A blank guard is none. -/
def guard? (e : Edge) : Option String :=
  match e.condition with
  | none => none
  | some c =>
    let trimmed := Text.trim c
    if trimmed = "" then none else some trimmed

/-- The names of the fields. -/
def fieldNames : List String := ["id", "source", "target", "label", "condition"]

/-- Decodes an edge. -/
def ofValue? (v : Value) : Option Edge := do
  let r ← Record.ofValue? fieldNames v
  let id ← r.withDefault "id" Value.asString? ""
  let source ← r.required "source" Value.asString?
  let target ← r.required "target" Value.asString?
  let label ← r.optional "label" Value.asString?
  let condition ← r.optional "condition" Value.asString?
  pure ⟨id, source, target, label, condition⟩

/-- Encodes an edge. -/
def toValue (e : Edge) : Value :=
  .object (Fields.ofPairs
    ([("id", .string e.id), ("source", .string e.source), ("target", .string e.target)] ++
      optionalField "label" .string e.label ++ optionalField "condition" .string e.condition))

end Edge

/-- A workflow definition. The times are known unless the definition has none and was decoded at a
time that nobody knows. -/
structure Workflow where
  id : String
  name : String
  description : Option String
  version : String
  nodes : List Node
  edges : List Edge
  createdAt : Option Timestamp
  updatedAt : Option Timestamp

/-- How serious an issue is. -/
inductive Severity where
  | error
  | warning
  deriving Repr, DecidableEq

/-- A structural problem of a graph. -/
inductive GraphIssue where
  | noStart
  | manyStarts (count : Nat)
  | unknownEndpoint (edge node : String)
  | unsupportedType (node : String)
  | noDefaultEdge (node : String)
  | ignoredConditions (node : String)
  | ignoredEdges (node : String) (count : Nat)
  | deadEnd (node : String)
  deriving Repr, DecidableEq

namespace GraphIssue

/-- Whether the issue keeps the workflow from running. -/
def severity : GraphIssue → Severity
  | noStart => .error
  | unknownEndpoint _ _ => .error
  | unsupportedType _ => .error
  | _ => .warning

/-- The wording of the issue. -/
def message : GraphIssue → String
  | noStart => "workflow has no start node"
  | manyStarts count =>
    "workflow has " ++ toString count ++ " start nodes; the first one is used"
  | unknownEndpoint edge node =>
    "edge '" ++ edge ++ "' references unknown node '" ++ node ++ "'"
  | unsupportedType node => "node '" ++ node ++ "' has an unsupported type"
  | noDefaultEdge node =>
    "decision node '" ++ node ++ "' has no default (unconditioned) edge"
  | ignoredConditions node =>
    "node '" ++ node ++ "' is not a decision node; its edge conditions are ignored"
  | ignoredEdges node count =>
    "node '" ++ node ++ "' has " ++ toString count ++
      " outgoing edges; only the first is followed"
  | deadEnd node => "node '" ++ node ++ "' has no outgoing edge and is not an end node"

end GraphIssue

/-- The edges that leave a node, in their order. -/
def outgoing (edges : List Edge) (id : String) : List Edge :=
  edges.filter fun e => e.source = id

namespace Workflow

/-- The issues of a list of start nodes. -/
def startIssues (nodes : List Node) : List GraphIssue :=
  let starts := (nodes.filter Node.isStart).length
  if starts = 0 then [.noStart] else if starts = 1 then [] else [.manyStarts starts]

/-- The issues of one edge: an end that is no node. -/
def edgeIssues (nodes : List Node) (e : Edge) : List GraphIssue :=
  ([e.source, e.target].filter fun id => !nodes.any fun n => n.id == id).map
    fun id => .unknownEndpoint e.id id

/-- The issues of the edges that leave a decision. -/
def decisionIssues (id : String) (edges : List Edge) : List GraphIssue :=
  if edges.any fun e => e.guard?.isNone then [] else [.noDefaultEdge id]

/-- The issues of the edges that leave any other node. -/
def followedIssues (n : Node) (edges : List Edge) : List GraphIssue :=
  (if edges.any fun e => e.guard?.isSome then [.ignoredConditions n.id] else []) ++
    (if 1 < edges.length then [.ignoredEdges n.id edges.length] else []) ++
    (if edges.isEmpty && !n.isEnd then [.deadEnd n.id] else [])

/-- The issues of one node. -/
def nodeIssues (edges : List Edge) (n : Node) : List GraphIssue :=
  (if n.isUnsupported then [.unsupportedType n.id] else []) ++
    if n.isDecision then decisionIssues n.id (outgoing edges n.id)
    else followedIssues n (outgoing edges n.id)

/-- The structural problems of the workflow: of its start, of its edges, of its nodes. -/
def validate (w : Workflow) : List GraphIssue :=
  startIssues w.nodes ++ w.edges.flatMap (edgeIssues w.nodes) ++ w.nodes.flatMap (nodeIssues w.edges)

/-- Whether the workflow has no errors; it may have warnings. -/
def isRunnable (w : Workflow) : Bool :=
  w.validate.all fun issue => issue.severity ≠ .error

/-- The names of the fields. -/
def fieldNames : List String :=
  ["id", "name", "description", "version", "nodes", "edges", "createdAt", "updatedAt"]

/-- Decodes a time. -/
def timestamp? (v : Value) : Option (Option Timestamp) :=
  (v.asString?.bind Timestamp.read?).map some

/-- Decodes a workflow. A time that is missing is the present one. -/
def ofValue? (v : Value) (present : Option Timestamp := none) : Option Workflow := do
  let r ← Record.ofValue? fieldNames v
  let id ← r.required "id" Value.asString?
  let name ← r.required "name" Value.asString?
  let description ← r.optional "description" Value.asString?
  let version ← r.withDefault "version" Value.asString? "1.0.0"
  let nodes ← r.withDefault "nodes" (Value.asList? Node.ofValue?) []
  let edges ← r.withDefault "edges" (Value.asList? Edge.ofValue?) []
  let createdAt ← r.withDefault "createdAt" timestamp? present
  let updatedAt ← r.withDefault "updatedAt" timestamp? present
  pure ⟨id, name, description, version, nodes, edges, createdAt, updatedAt⟩

/-- Encodes a workflow. -/
def toValue (w : Workflow) : Value :=
  .object (Fields.ofPairs
    ([("id", .string w.id), ("name", .string w.name)] ++
      optionalField "description" .string w.description ++
      [("version", .string w.version), ("nodes", .array (w.nodes.map Node.toValue)),
        ("edges", .array (w.edges.map Edge.toValue))] ++
      optionalField "createdAt" (fun t => .string t.text) w.createdAt ++
      optionalField "updatedAt" (fun t => .string t.text) w.updatedAt))

end Workflow

end Automation
