import Automation.Value.Decode

/-!
# Results of nodes

What a node answers: success or a failure with its error, and a payload of fields. A failure is
data and never ends a run by itself. Results of a run are kept in the order in which the nodes
were visited.
-/

namespace Automation

/-- The outcome of one node. -/
structure NodeResult where
  success : Bool
  error : Option String
  data : Fields

namespace NodeResult

/-- A success without a payload. -/
def succeeded : NodeResult := ⟨true, none, []⟩

/-- A failure with an error. -/
def failed (error : String) : NodeResult := ⟨false, some error, []⟩

/-- The result with one more field in its payload. -/
def «with» (r : NodeResult) (key : String) (value : Value) : NodeResult :=
  { r with data := Fields.insert key value r.data }

/-- A field of the payload. -/
def get? (r : NodeResult) (key : String) : Option Value :=
  Fields.get? key r.data

/-- A text of the payload. -/
def getString? (r : NodeResult) (key : String) : Option String :=
  (r.get? key).bind Value.asString?

/-- The result as conditions and scripts see it: the payload with `success` and `error`, which
come before payload fields of those names. -/
def toValue (r : NodeResult) : Value :=
  let data := Fields.insert "success" (.bool r.success) r.data
  match r.error with
  | some e => .object (Fields.insert "error" (.string e) data)
  | none => .object data

/-- The encoded result, field by field: `success`, `error` and then the payload. -/
def toPairs (r : NodeResult) : List (String × Value) :=
  [("success", .bool r.success)] ++ optionalField "error" .string r.error ++ r.data

/-- The encoded result. -/
def encode (r : NodeResult) : Value :=
  .object (Fields.ofPairs r.toPairs)

/-- Decodes a result, which is an object. What is neither `success` nor `error` is payload. -/
def ofValue? (v : Value) : Option NodeResult :=
  match v with
  | .object r => do
    let success ← Record.required "success" Value.asBool? r
    let error ← Record.optional "error" Value.asString? r
    let rest := r.filter fun field => field.1 ≠ "success" ∧ field.1 ≠ "error"
    let data ← (Value.object rest).asObject?
    pure ⟨success, error, data⟩
  | _ => none

end NodeResult

/-- The results of a run by node, in the order of the visits. -/
abbrev Results := List (String × NodeResult)

namespace Results

/-- The result of a node. -/
def get? (id : String) (results : Results) : Option NodeResult :=
  Fields.get? id results

/-- Whether a node has a result. -/
def has (id : String) (results : Results) : Bool :=
  results.any fun entry => entry.1 == id

/-- Stores a result: in place of an earlier one, or at the end. -/
def put (id : String) (result : NodeResult) : Results → Results
  | [] => [(id, result)]
  | (k, r) :: rest => if k = id then (id, result) :: rest else (k, r) :: put id result rest

/-- Results from pairs, one after another. -/
def ofPairs (pairs : List (String × NodeResult)) : Results :=
  pairs.foldl (fun acc pair => put pair.1 pair.2 acc) []

/-- Decodes results, which are an object with an entry per node. -/
def ofValue? (v : Value) : Option Results :=
  match v with
  | .object fields =>
    (fields.mapM fun (field : String × Value) =>
      (NodeResult.ofValue? field.2).map fun r => (field.1, r)).map ofPairs
  | _ => none

/-- The context of a node: the input of the run, the input as a whole, and every result so far
under the id of its node. Later entries go over earlier ones. -/
def context (input : Fields) (results : Results) : Fields :=
  results.foldl (fun acc entry => Fields.insert entry.1 entry.2.toValue acc)
    (Fields.insert "input" (.object input) input)

end Results

end Automation
