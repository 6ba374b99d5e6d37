import Automation.Graph.Workflow
import Automation.Proofs.Value.Record

/-!
# Encoding what was decoded

A decoded node is `Normal`: its numbers are words, its objects have their fields in order, and its
body is no null. A normal node is found again in its encoding, whichever kind stands beside the
node's own fields, because every field is written under its own name and what is left out is what
decoding puts in its place (`Node.ofValue?_toValue`). The same holds of edges and, but for how its times
are written, of a workflow: a time that is missing is the present one, and it is written then.
-/

namespace Automation

/-! ## What decoding answers -/

namespace Record

variable {α : Type} {name : String} {r : Record} {decode : Value → Option α}

theorem decoded_of_optional {o : Option α} (h : r.optional name decode = some o) {a : α}
    (there : o = some a) : ∃ v, v ≠ .null ∧ decode v = some a := by
  subst there
  unfold optional at h
  split at h
  · cases h
  next v notNull _ =>
    obtain ⟨b, decoded, same⟩ := Option.map_eq_some_iff.mp h
    cases same
    exact ⟨v, fun null => notNull null, decoded⟩
  · cases h
  · cases h

end Record

/-- A field of a text that may be missing. -/
theorem optional_string {r : Record} {name : String} {o : Option String}
    (h : r.field? name = some (o.map .string)) : r.optional name Value.asString? = some o :=
  Record.optional_of_field h fun _ _ => ⟨by simp, rfl⟩

/-- A field of a number that may be missing. -/
theorem optional_nat {r : Record} {name : String} {bound : Nat} {o : Option Nat}
    (h : r.field? name = some (o.map Value.ofNat)) (words : ∀ n, o = some n → n < bound) :
    r.optional name (Value.asNat? bound) = some o :=
  Record.optional_of_field h fun n there => ⟨by simp [Value.ofNat], Value.asNat?_ofNat (words n there)⟩

/-! ## Browser actions -/

theorem ActionType.ofName?_name (a : ActionType) : ofName? a.name = some a := by
  cases a <;> decide

namespace BrowserAction

/-- A browser action with a timeout that is a word and options in order. -/
structure Normal (a : BrowserAction) : Prop where
  timeout : ∀ t, a.timeout = some t → t < wordBound
  options : (Value.object a.options).Ordered

variable {name? : Value → Option String}

theorem normal_of_ofRecord? {r : Record} {a : BrowserAction} (h : ofRecord? name? r = some a) :
    a.Normal := by
  simp only [ofRecord?, bind, Option.bind_eq_some_iff, pure, Option.some.injEq] at h
  obtain ⟨action, _, url, _, selector, _, text, _, timeout, ht, options, ho, rfl⟩ := h
  constructor
  · intro t there
    obtain ⟨_, _, decoded⟩ := Record.decoded_of_optional ht there
    exact Value.asNat?_lt decoded
  · rcases Record.origin_of_withDefault ho with none | ⟨_, -, decoded⟩
    · show (Value.object options).Ordered
      subst none
      exact .object .nil fun _ there => by cases there
    · exact Value.ordered_of_asObject? decoded

/-- A normal action is decoded from its own fields, wherever a text is read as the name that it is. -/
theorem ofRecord?_of_fields (text : ∀ s, name? (.string s) = some s) {a : BrowserAction}
    (normal : a.Normal) {r : Record}
    (h : ∀ name ∈ fieldNames, r.field? name = some (Fields.get? name a.toFields.reverse)) :
    ofRecord? name? r = some a := by
  simp [fieldNames, toFields, Fields.get?_append, Fields.get?] at h
  obtain ⟨action, url, selector, input, timeout, options⟩ := h
  have action : r.required "actionType" (fun v => (name? v).bind ActionType.ofName?) =
      some a.action := by
    rw [Record.required_of_field action, text]
    exact ActionType.ofName?_name a.action
  have options : r.withDefault "options" Value.asObject? [] = some a.options :=
    Record.withDefault_of_unless options Eq.symm normal.options.asObject?_eq
  simp [ofRecord?, action, optional_string url, optional_string selector, optional_string input,
    optional_nat timeout normal.timeout, options]

end BrowserAction

/-! ## Requests -/

namespace ApiCall

/-- A request with headers in order and a body that is no null and in order. -/
structure Normal (c : ApiCall) : Prop where
  headers : Fields.Ordered c.headers
  body : ∀ v, c.body = some v → v ≠ .null ∧ v.Ordered

theorem ordered_of_headers? {v : Value} {headers : List (String × String)}
    (h : headers? v = some headers) : Fields.Ordered headers := by
  unfold headers? at h
  split at h
  · obtain ⟨pairs, _, rfl⟩ := Option.map_eq_some_iff.mp h
    exact Fields.Ordered.ofPairs pairs
  · cases h

/-- Encoded headers are decoded one by one. -/
theorem headers?_of_ordered {headers : List (String × String)} (h : Fields.Ordered headers) :
    headers? (.object (headers.map fun (k, s) => (k, .string s))) = some headers := by
  have each : (headers.map fun (k, s) => (k, Value.string s)).mapM
      (fun (field : String × Value) => field.2.asString?.map fun s => (field.1, s)) =
      some headers := by
    clear h
    induction headers with
    | nil => rfl
    | cons first rest ih =>
      rw [List.map_cons, List.mapM_cons, ih]
      rfl
  rw [headers?, each, Option.map_some, h.ofPairs_eq]

theorem normalize_ne_null {v : Value} (h : v ≠ .null) : v.normalize ≠ .null := by
  cases v with
  | null => exact absurd rfl h
  | _ => rw [Value.normalize]; nofun

theorem normal_of_ofRecord? {r : Record} {c : ApiCall} (h : ofRecord? r = some c) : c.Normal := by
  simp only [ofRecord?, bind, Option.bind_eq_some_iff, pure, Option.some.injEq] at h
  obtain ⟨url, _, method, _, headers, hh, body, hb, rfl⟩ := h
  constructor
  · rcases Record.origin_of_withDefault hh with none | ⟨_, -, decoded⟩
    · show Fields.Ordered headers
      subst none
      exact .nil
    · exact ordered_of_headers? decoded
  · intro v there
    obtain ⟨w, notNull, decoded⟩ := Record.decoded_of_optional hb there
    cases decoded
    exact ⟨normalize_ne_null notNull, Value.ordered_normalize w⟩

/-- A normal request is decoded from its own fields. -/
theorem ofRecord?_of_fields {c : ApiCall} (normal : c.Normal) {r : Record}
    (h : ∀ name ∈ ["url", "method", "headers", "body"],
      r.field? name = some (Fields.get? name c.toFields.reverse)) :
    ofRecord? r = some c := by
  simp [toFields, Fields.get?_append, Fields.get?] at h
  obtain ⟨url, method, headers, body⟩ := h
  have url : r.required "url" Value.asString? = some c.url := Record.required_of_field url
  have method : r.withDefault "method" Value.asString? "GET" = some c.method :=
    Record.withDefault_of_field method
  have headers : r.withDefault "headers" headers? [] = some c.headers :=
    Record.withDefault_of_unless headers Eq.symm (headers?_of_ordered normal.headers)
  have body : r.optional "body" (fun v => some v.normalize) = some c.body := by
    have written : r.field? "body" = some (c.body.map id) := by rw [body, Option.map_id_apply]
    refine Record.optional_of_field written fun v there => ?_
    obtain ⟨notNull, ordered⟩ := normal.body v there
    exact ⟨notNull, congrArg some ordered.normalize_eq⟩
  simp [ofRecord?, url, method, headers, body]

end ApiCall

/-! ## Scripts -/

namespace ScriptNode

/-- A script with bindings in order. -/
def Normal (s : ScriptNode) : Prop :=
  ∀ fields, s.context = some fields → (Value.object fields).Ordered

theorem normal_of_ofRecord? {r : Record} {s : ScriptNode} (h : ofRecord? r = some s) :
    s.Normal := by
  simp only [ofRecord?, bind, Option.bind_eq_some_iff, pure, Option.some.injEq] at h
  obtain ⟨code, _, context, hc, rfl⟩ := h
  intro fields there
  obtain ⟨_, _, decoded⟩ := Record.decoded_of_optional hc there
  exact Value.ordered_of_asObject? decoded

/-- A normal script is decoded from its own fields. -/
theorem ofRecord?_of_fields {s : ScriptNode} (normal : s.Normal) {r : Record}
    (h : ∀ name ∈ ["code", "context"],
      r.field? name = some (Fields.get? name s.toFields.reverse)) :
    ofRecord? r = some s := by
  simp [toFields, Fields.get?_append, Fields.get?] at h
  obtain ⟨code, context⟩ := h
  have code : r.required "code" Value.asString? = some s.code := Record.required_of_field code
  have context : r.optional "context" Value.asObject? = some s.context :=
    Record.optional_of_field context fun fields there =>
      ⟨by simp, (normal fields there).asObject?_eq⟩
  simp [ofRecord?, code, context]

end ScriptNode

/-! ## Nodes -/

namespace NodeKind

/-- A kind that is normal in what it says. -/
def Normal : NodeKind → Prop
  | browserAction a => a.Normal
  | delay ms => ∀ n, ms = some n → n < wordBound
  | apiCall c => c.Normal
  | script s => s.Normal
  | _ => True

theorem normal_of_ofRecord? {r : Record} {k : NodeKind} (h : ofRecord? r = some k) :
    k.Normal := by
  simp only [ofRecord?, bind, Option.bind_eq_some_iff] at h
  obtain ⟨type, _, h⟩ := h
  iterate 4
    split at h
    · cases h
      exact trivial
  split at h
  · obtain ⟨a, decoded, rfl⟩ := Option.map_eq_some_iff.mp h
    exact BrowserAction.normal_of_ofRecord? decoded
  split at h
  · obtain ⟨ms, decoded, rfl⟩ := Option.map_eq_some_iff.mp h
    intro n there
    obtain ⟨_, _, decoded⟩ := Record.decoded_of_optional decoded there
    exact Value.asNat?_lt decoded
  split at h
  · obtain ⟨c, decoded, rfl⟩ := Option.map_eq_some_iff.mp h
    exact ApiCall.normal_of_ofRecord? decoded
  split at h
  · obtain ⟨s, decoded, rfl⟩ := Option.map_eq_some_iff.mp h
    exact ScriptNode.normal_of_ofRecord? decoded
  · cases h
    exact trivial

end NodeKind

namespace Node

/-- The names of the fields that every node has, whatever its kind. -/
def ownNames : List String := ["id", "name", "description", "position"]

end Node

namespace NodeKind

theorem get?_type (k : NodeKind) :
    Fields.get? "type" k.toFields.reverse = some (.string k.typeName) := by
  cases k <;> simp [toFields, BrowserAction.toFields, ApiCall.toFields, ScriptNode.toFields,
    Fields.get?_append, Fields.get?]

/-- No kind writes a field of the node itself. -/
theorem get?_own (k : NodeKind) : ∀ name ∈ Node.ownNames,
    Fields.get? name k.toFields.reverse = none := by
  simp only [Node.ownNames, List.forall_mem_cons]
  cases k <;> simp [toFields, BrowserAction.toFields, ApiCall.toFields, ScriptNode.toFields,
    Fields.get?_append, Fields.get?]

/-- **A normal kind is decoded from the fields that are not the node's own**, whichever it is. -/
theorem ofRecord?_of_fields {k : NodeKind} (normal : k.Normal) {r : Record}
    (h : ∀ name, name ∉ Node.ownNames → r.field? name = some (Fields.get? name k.toFields.reverse)) :
    ofRecord? r = some k := by
  have type : r.required "type" typeOfValue? = some k.typeName := by
    have written := h "type" (by decide)
    rw [get?_type] at written
    exact Record.required_of_field written
  -- What a kind says stands behind its type, under other names.
  have behind {fields : Fields} (same : k.toFields = ("type", .string k.typeName) :: fields)
      {names : List String} (others : ∀ name ∈ names, name ∉ Node.ownNames ∧ name ≠ "type") :
      ∀ name ∈ names, r.field? name = some (Fields.get? name fields.reverse) := by
    intro name there
    obtain ⟨foreign, ne⟩ := others name there
    rw [h name foreign, same, Fields.get?_reverse_cons_of_ne ne]
  cases k with
  | start => simp [ofRecord?, type, typeName]
  | finish => simp [ofRecord?, type, typeName]
  | task => simp [ofRecord?, type, typeName]
  | decision => simp [ofRecord?, type, typeName]
  | unsupported => simp [ofRecord?, type, typeName]
  | browserAction a =>
    have named (s : String) : Value.asLooseName? (.string s) = some s := rfl
    have inner := BrowserAction.ofRecord?_of_fields named normal (behind rfl (by decide))
    simp [ofRecord?, type, typeName, inner]
  | delay ms =>
    have written : ∀ name ∈ ["milliseconds"], r.field? name = some (Fields.get? name
        (optionalField "milliseconds" Value.ofNat ms).reverse) := behind rfl (by decide)
    simp at written
    simp [ofRecord?, type, typeName, optional_nat written normal]
  | apiCall c =>
    have inner := ApiCall.ofRecord?_of_fields normal (behind rfl (by decide))
    simp [ofRecord?, type, typeName, inner]
  | script s =>
    have inner := ScriptNode.ofRecord?_of_fields normal (behind rfl (by decide))
    simp [ofRecord?, type, typeName, inner]

end NodeKind

theorem Position.ofValue?_toValue (p : Position) : ofValue? p.toValue = some p := by
  simp [ofValue?, toValue, Record.ofValue?, Record.required, Record.field?, Value.asFloat?,
    Number.toFloat]

namespace Node

theorem normal_of_ofValue? {v : Value} {n : Node} (h : ofValue? v = some n) : n.kind.Normal := by
  cases v with
  | object r =>
    simp only [ofValue?, bind, Option.bind_eq_some_iff, pure, Option.some.injEq] at h
    obtain ⟨id, _, name, _, description, _, position, _, kind, decoded, rfl⟩ := h
    exact NodeKind.normal_of_ofRecord? decoded
  | _ => cases h

/-- The fields of an encoded node that are its own. -/
def ownFields (n : Node) : List (String × Value) :=
  [("id", .string n.id), ("name", .string n.name)] ++
    optionalField "description" .string n.description ++
    optionalField "position" Position.toValue n.position

theorem get?_ownFields (n : Node) {name : String} (foreign : name ∉ ownNames) :
    Fields.get? name n.ownFields.reverse = none := by
  simp only [ownNames, List.mem_cons, not_or] at foreign
  obtain ⟨id, named, description, position, _⟩ := foreign
  simp [ownFields, Fields.get?_append, Fields.get?, Ne.symm id, Ne.symm named,
    Ne.symm description, Ne.symm position]

/-- **A normal node is found again in its encoding.** -/
theorem ofValue?_toValue {n : Node} (normal : n.kind.Normal) : ofValue? n.toValue = some n := by
  let r : Record := Fields.ofPairs (n.ownFields ++ n.kind.toFields)
  have fields (name : String) : r.field? name = some ((Fields.get? name
      n.kind.toFields.reverse).or (Fields.get? name n.ownFields.reverse)) := by
    rw [Record.field?_ofPairs, List.reverse_append, Fields.get?_append]
  have own : ∀ name ∈ ownNames, r.field? name = some (Fields.get? name n.ownFields.reverse) := by
    intro name there
    rw [fields, n.kind.get?_own name there, Option.none_or]
  have foreign (name : String) (foreign : name ∉ ownNames) :
      r.field? name = some (Fields.get? name n.kind.toFields.reverse) := by
    rw [fields, n.get?_ownFields foreign, Option.or_none]
  simp [ownNames, ownFields, Fields.get?_append, Fields.get?] at own
  obtain ⟨id, named, description, position⟩ := own
  have id : r.required "id" Value.asString? = some n.id := Record.required_of_field id
  have named : r.withDefault "name" Value.asString? "" = some n.name :=
    Record.withDefault_of_field named
  have position : r.optional "position" Position.ofValue? = some n.position :=
    Record.optional_of_field position fun p _ => ⟨by simp [Position.toValue], p.ofValue?_toValue⟩
  show ofValue? (.object r) = some n
  simp [ofValue?, id, named, optional_string description, position,
    NodeKind.ofRecord?_of_fields normal foreign]

end Node

/-! ## Edges -/

/-- **Every edge is found again in its encoding.** -/
theorem Edge.ofValue?_toValue (e : Edge) : ofValue? e.toValue = some e := by
  let r : Record := Fields.ofPairs
    ([("id", .string e.id), ("source", .string e.source), ("target", .string e.target)] ++
      optionalField "label" .string e.label ++ optionalField "condition" .string e.condition)
  have fields : ∀ name ∈ fieldNames, r.field? name = some (Fields.get? name _) :=
    fun name _ => Record.field?_ofPairs name _
  simp [fieldNames, Fields.get?_append, Fields.get?] at fields
  obtain ⟨id, source, target, label, condition⟩ := fields
  have id : r.withDefault "id" Value.asString? "" = some e.id := Record.withDefault_of_field id
  have source : r.required "source" Value.asString? = some e.source :=
    Record.required_of_field source
  have target : r.required "target" Value.asString? = some e.target :=
    Record.required_of_field target
  show ofValue? (.object r) = some e
  simp [ofValue?, Record.ofValue?, id, source, target, optional_string label,
    optional_string condition]

/-! ## Workflows -/

namespace Workflow

/-- A time that is read again as it was written. -/
def TimeKept (time : Option Timestamp) : Prop :=
  ∀ t, time = some t → Timestamp.read? t.text = some t

/-- A time that was written is read again, whatever the time is then. -/
theorem withDefault_time {r : Record} {name : String} {time present : Option Timestamp}
    (h : r.field? name = some (time.map fun t => .string t.text)) (kept : TimeKept time)
    (known : time = none → present = none) :
    r.withDefault name timestamp? present = some time := by
  cases time with
  | none => simp only [Record.withDefault, h, Option.map_none, known rfl]
  | some t =>
    rw [Record.withDefault_of_field h]
    simp [timestamp?, Value.asString?, kept t rfl]

/-- A time is missing only if the present one is not known. -/
theorem time_known {r : Record} {name : String} {time present : Option Timestamp}
    (h : r.withDefault name timestamp? present = some time) (missing : time = none) :
    present = none := by
  rcases Record.origin_of_withDefault h with rfl | ⟨v, -, decoded⟩
  · exact missing
  · obtain ⟨t, -, rfl⟩ := Option.map_eq_some_iff.mp decoded
    cases missing

theorem times_known {v : Value} {present : Option Timestamp} {w : Workflow}
    (h : ofValue? v present = some w) :
    (w.createdAt = none → present = none) ∧ (w.updatedAt = none → present = none) := by
  simp only [ofValue?, bind, Option.bind_eq_some_iff, pure, Option.some.injEq] at h
  obtain ⟨r, _, id, _, name, _, description, _, version, _, nodes, _, edges, _, createdAt, created,
    updatedAt, updated, rfl⟩ := h
  exact ⟨time_known created, time_known updated⟩

theorem nodes_normal {v : Value} {present : Option Timestamp} {w : Workflow}
    (h : ofValue? v present = some w) : ∀ n ∈ w.nodes, n.kind.Normal := by
  simp only [ofValue?, bind, Option.bind_eq_some_iff, pure, Option.some.injEq] at h
  obtain ⟨r, _, id, _, name, _, description, _, version, _, nodes, decoded, edges, _, createdAt, _,
    updatedAt, _, rfl⟩ := h
  intro n there
  rcases Record.origin_of_withDefault decoded with none | ⟨_, -, listed⟩
  · subst none
    cases there
  · obtain ⟨_, decoded⟩ := Value.decoded_of_asList? listed n there
    exact Node.normal_of_ofValue? decoded

/-- **A workflow of normal nodes is found again in its encoding** if its times are, whatever the time
is then. -/
theorem ofValue?_toValue {w : Workflow} (normal : ∀ n ∈ w.nodes, n.kind.Normal)
    (created : TimeKept w.createdAt) (updated : TimeKept w.updatedAt) {present : Option Timestamp}
    (known : (w.createdAt = none → present = none) ∧ (w.updatedAt = none → present = none)) :
    ofValue? w.toValue present = some w := by
  let r : Record := Fields.ofPairs
    ([("id", .string w.id), ("name", .string w.name)] ++
      optionalField "description" .string w.description ++
      [("version", .string w.version), ("nodes", .array (w.nodes.map Node.toValue)),
        ("edges", .array (w.edges.map Edge.toValue))] ++
      optionalField "createdAt" (fun t => .string t.text) w.createdAt ++
      optionalField "updatedAt" (fun t => .string t.text) w.updatedAt)
  have fields : ∀ name ∈ fieldNames, r.field? name = some (Fields.get? name _) :=
    fun name _ => Record.field?_ofPairs name _
  simp [fieldNames, Fields.get?_append, Fields.get?] at fields
  obtain ⟨id, name, description, version, nodes, edges, createdAt, updatedAt⟩ := fields
  have id : r.required "id" Value.asString? = some w.id := Record.required_of_field id
  have name : r.required "name" Value.asString? = some w.name := Record.required_of_field name
  have version : r.withDefault "version" Value.asString? "1.0.0" = some w.version :=
    Record.withDefault_of_field version
  have nodes : r.withDefault "nodes" (Value.asList? Node.ofValue?) [] = some w.nodes := by
    rw [Record.withDefault_of_field nodes]
    exact Value.asList?_map fun n there => Node.ofValue?_toValue (normal n there)
  have edges : r.withDefault "edges" (Value.asList? Edge.ofValue?) [] = some w.edges := by
    rw [Record.withDefault_of_field edges]
    exact Value.asList?_map fun e _ => e.ofValue?_toValue
  show ofValue? (.object r) present = some w
  simp [ofValue?, Record.ofValue?, id, name, optional_string description, version, nodes, edges,
    withDefault_time createdAt created known.1, withDefault_time updatedAt updated known.2]

end Workflow

/-! ## Decoding, encoding, decoding -/

/-- Whether something is found again in its encoding, which then is its own normal form. -/
structure Restored {α : Type} (decode : Value → Option α) (encode : α → Value) (a : α) : Prop where
  again : decode (encode a) = some a
  settled : (decode (encode a)).map encode = some (encode a)

theorem Restored.of_again {α : Type} {decode : Value → Option α} {encode : α → Value} {a : α}
    (again : decode (encode a) = some a) : Restored decode encode a :=
  ⟨again, by rw [again, Option.map_some]⟩

/-- **Whatever was decoded is found again in its encoding**: a node of any kind, an edge, and a
workflow with its nodes and edges in their order, if its times are read as they were written. A decoded
node is normal, and every normal node, and every edge, is what its encoding is decoded to. A workflow
that was decoded when the present time was known has both of its times and writes them, and so it does
not matter when it is decoded again. -/
theorem restored_of_decoded :
    (∀ v n, Node.ofValue? v = some n → n.kind.Normal ∧ Restored Node.ofValue? Node.toValue n) ∧
      (∀ n : Node, n.kind.Normal → Node.ofValue? n.toValue = some n) ∧
      (∀ v e, Edge.ofValue? v = some e → Restored Edge.ofValue? Edge.toValue e) ∧
      (∀ e : Edge, Edge.ofValue? e.toValue = some e) ∧
      ∀ v present w, Workflow.ofValue? v present = some w → Workflow.TimeKept w.createdAt →
        Workflow.TimeKept w.updatedAt →
          Restored (Workflow.ofValue? · present) Workflow.toValue w ∧
          (present ≠ none → w.createdAt ≠ none ∧ w.updatedAt ≠ none ∧
            ∀ later, Restored (Workflow.ofValue? · later) Workflow.toValue w) := by
  refine ⟨fun v n decoded => ?_, fun n => Node.ofValue?_toValue, fun v e _ => ?_,
    Edge.ofValue?_toValue, fun v present w decoded created updated => ?_⟩
  · have normal := Node.normal_of_ofValue? decoded
    exact ⟨normal, .of_again (Node.ofValue?_toValue normal)⟩
  · exact .of_again e.ofValue?_toValue
  · have normal := Workflow.nodes_normal decoded
    have known := Workflow.times_known decoded
    refine ⟨.of_again (Workflow.ofValue?_toValue normal created updated known), fun given => ?_⟩
    have createdAt : w.createdAt ≠ none := mt known.1 given
    have updatedAt : w.updatedAt ≠ none := mt known.2 given
    exact ⟨createdAt, updatedAt, fun later => .of_again (Workflow.ofValue?_toValue normal created
      updated ⟨fun missing => absurd missing createdAt, fun missing => absurd missing updatedAt⟩)⟩

/-- A workflow with a request that says as little as it can, a node of an unknown type, and an edge
that is written as an array. It says when it was created and is decoded a day later. -/
theorem restored_requests :
    let request : Value := .object
      [("url", .string "https://example.org"), ("type", .string "api_call"), ("id", .string "a"),
        ("headers", .object [("x", .string "1"), ("a", .string "2")]), ("body", .null)]
    let v : Value := .object
      [("nodes", .array [request, .object [("id", .string "b"), ("type", .string "teleport")]]),
        ("name", .string "w"), ("id", .string "1"), ("createdAt", .string "2024-05-06T07:08:09Z"),
        ("edges", .array [.array [.string "e", .string "a", .string "b"]])]
    let n : Node := ⟨"a", "", none, none,
      .apiCall ⟨"https://example.org", "GET", [("a", "2"), ("x", "1")], none⟩⟩
    let e : Edge := ⟨"e", "a", "b", none, none⟩
    let time : Timestamp := ⟨19849, 25689, 0⟩
    let present : Timestamp := ⟨19850, 0, 0⟩
    let w : Workflow := ⟨"1", "w", none, "1.0.0", [n, ⟨"b", "", none, none, .unsupported⟩], [e],
      some time, some present⟩
    (Node.ofValue? request = some n ∧ Restored Node.ofValue? Node.toValue n) ∧
      Node.ofValue? n.toValue = some n ∧ Restored Edge.ofValue? Edge.toValue e ∧
      Workflow.ofValue? v present = some w ∧
      ∀ later, Restored (Workflow.ofValue? · later) Workflow.toValue w := by
  intro request v n e time present w
  obtain ⟨nodes, normal, edges, -, workflows⟩ := restored_of_decoded
  have node : Node.ofValue? request = some n := rfl
  have edge : Edge.ofValue? (.array [.string "e", .string "a", .string "b"]) = some e := rfl
  have workflow : Workflow.ofValue? v present = some w := rfl
  have created : Workflow.TimeKept (some time) := by
    rintro _ ⟨⟩
    decide
  have updated : Workflow.TimeKept (some present) := by
    rintro _ ⟨⟩
    decide
  have restored := (workflows v present w workflow created updated).2 (Option.some_ne_none present)
  exact ⟨⟨node, (nodes request n node).2⟩, normal n (nodes request n node).1, edges _ e edge,
    workflow, restored.2.2⟩

end Automation
