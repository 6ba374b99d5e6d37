import Automation.Toml.Library
import Automation.Toml.Scalar

/-!
# TOML documents

A document is a tree of tables. A table comes into being by its own header, as a step on the way to
another table, or by a dotted key, and that decides what may be added to it later: nothing is
defined twice. An array of tables grows by one table with every header of its own, and what follows
goes into the last one.
-/

namespace Automation.Toml

/-- How a table came into being. -/
inductive Definition where
  /-- By its own header. -/
  | explicit
  /-- On the way to another table. -/
  | implicit
  /-- By a dotted key. -/
  | dotted
  deriving Repr, DecidableEq

/-- A part of a document. -/
inductive Tree where
  | value (v : Value)
  | table (definition : Definition) (fields : List (String × Tree))
  | tables (items : List (List (String × Tree)))

/-- The fields of a table. -/
abbrev Table := List (String × Tree)

mutual

/-- The value of a part. -/
def Tree.toValue : Tree → Value
  | .value v => v
  | .table _ fields => .object (valuesOf fields)
  | .tables items => .array (recordsOf items)

/-- The values of the fields of a table. -/
def valuesOf : List (String × Tree) → List (String × Value)
  | [] => []
  | (k, t) :: rest => (k, t.toValue) :: valuesOf rest

/-- The values of the tables of an array. -/
def recordsOf : List (List (String × Tree)) → List Value
  | [] => []
  | fields :: rest => .object (valuesOf fields) :: recordsOf rest

end

/-! ## Definitions -/

/-- Changes the table under a path, which comes into being where it does not exist. Neither a value
nor, by a dotted key, a table with a header of its own can be on the way. -/
def updateAt (byDots : Bool) (change : Definition → Table → Option Table)
    (definition : Definition) (table : Table) : List String → Option Table
  | [] => change definition table
  | key :: rest =>
    match Fields.get? key table with
    | none =>
      let fresh := if byDots then Definition.dotted else .implicit
      (updateAt byDots change fresh [] rest).map fun t => Fields.insert key (.table fresh t) table
    | some (.value _) => none
    | some (.table d inner) =>
      if byDots ∧ d = .explicit then none
      else
        (updateAt byDots change d inner rest).map fun t => Fields.insert key (.table d t) table
    | some (.tables items) =>
      match items.reverse with
      | [] => none
      | last :: others =>
        (updateAt byDots change .explicit last rest).map fun t =>
          Fields.insert key (.tables (others.reverse ++ [t])) table

/-- The table with a value under a dotted key. The key must be new, and a table that is reached by
dots must have come into being by dots. -/
def define (keys : List String) (v : Value) (table : Table) : Option Table :=
  match keys.reverse with
  | [] => none
  | key :: path =>
    updateAt true (fun d fields =>
      if (d == .dotted) == path.isEmpty ∨ Fields.has key fields then none
      else some (Fields.insert key (.value v) fields)) .explicit table path.reverse

/-- The document with a table under a header. The table must be new or only implied so far. -/
def openTable (header : List String) (root : Table) : Option Table :=
  match header.reverse with
  | [] => none
  | key :: path =>
    updateAt false (fun _ fields =>
      match Fields.get? key fields with
      | none => some (Fields.insert key (.table .explicit []) fields)
      | some (.table .implicit inner) => some (Fields.insert key (.table .explicit inner) fields)
      | _ => none) .explicit root path.reverse

/-- The document with one more table in the array under a header. -/
def openItem (header : List String) (root : Table) : Option Table :=
  match header.reverse with
  | [] => none
  | key :: path =>
    updateAt false (fun _ fields =>
      match Fields.get? key fields with
      | none => some (Fields.insert key (.tables [[]]) fields)
      | some (.tables items) => some (Fields.insert key (.tables (items ++ [[]])) fields)
      | _ => none) .explicit root path.reverse

/-- The document with a value under a dotted key in the table under a header. -/
def defineUnder (header keys : List String) (v : Value) (root : Table) : Option Table :=
  updateAt false (fun _ fields => define keys v fields) .explicit root header

/-! ## Keys -/

/-- A character of a bare key. -/
def isBare (c : Char) : Bool := c.isAlphanum || c == '_' || c == '-'

/-- Reads one key. -/
def readKey? (cs : List Char) : Option (String × List Char) :=
  let bare := cs.takeWhile isBare
  if bare.isEmpty then readLine? cs else some (String.ofList bare, cs.drop bare.length)

/-- Reads keys between dots, with blanks around each. -/
def readKeys? : Nat → List Char → Option (List String × List Char)
  | 0, _ => none
  | fuel + 1, cs =>
    match readKey? (afterSpace cs) with
    | none => none
    | some (key, rest) =>
      match afterSpace rest with
      | '.' :: rest => (readKeys? fuel rest).map fun (keys, rest) => (key :: keys, rest)
      | rest => some ([key], rest)

/-- How deep keys and containers may nest. -/
def maxDepth : Nat := 79

/-! ## Values -/

/-- The text behind a comment, if one stands here. It holds no control characters. -/
def skipComment (cs : List Char) : Option (List Char) :=
  match cs with
  | '#' :: rest => some (rest.dropWhile isPlain)
  | _ => some cs

/-- The text behind blanks, comments and line breaks. A comment ends with its line. -/
def skipLines : Nat → List Char → Option (List Char)
  | 0, cs => some cs
  | fuel + 1, cs =>
    match afterSpace cs with
    | '#' :: rest =>
      let behind := rest.dropWhile isPlain
      match afterBreak? behind with
      | some rest => skipLines fuel rest
      | none => none
    | rest =>
      match afterBreak? rest with
      | some rest => skipLines fuel rest
      | none => some rest

/-- Reads the items of an array behind its bracket. -/
def readItems (value : List Char → Option (Value × List Char)) :
    Nat → List Char → Option (List Value × List Char)
  | 0, _ => none
  | fuel + 1, cs =>
    match skipLines cs.length cs with
    | some (']' :: rest) => some ([], rest)
    | some rest =>
      match value rest with
      | none => none
      | some (v, rest) =>
        match skipLines rest.length rest with
        | some (',' :: rest) => (readItems value fuel rest).map fun (vs, rest) => (v :: vs, rest)
        | some (']' :: rest) => some ([v], rest)
        | _ => none
    | none => none

/-- Reads the fields of an inline table, the first of them due. -/
def readFields (value : List Char → Option (Value × List Char)) :
    Nat → Table → List Char → Option (Table × List Char)
  | 0, _, _ => none
  | fuel + 1, table, cs =>
    match readKeys? maxDepth cs with
    | some (keys, '=' :: rest) =>
      match value (afterSpace rest) with
      | none => none
      | some (v, rest) =>
        match define keys v table with
        | none => none
        | some table =>
          match afterSpace rest with
          | ',' :: rest => readFields value fuel table rest
          | '\x7d' :: rest => some (table, rest)
          | _ => none
    | _ => none

/-- Reads a value whose containers nest at most `depth` deep. -/
def readValue : Nat → List Char → Option (Value × List Char)
  | depth, cs =>
    match cs with
    | '[' :: rest =>
      match depth with
      | 0 => none
      | depth + 1 =>
        (readItems (readValue depth) (rest.length + 1) rest).map fun (vs, rest) => (.array vs, rest)
    | '\x7b' :: rest =>
      match depth with
      | 0 => none
      | depth + 1 =>
        match afterSpace rest with
        | '\x7d' :: rest => some (.object [], rest)
        | _ =>
          (readFields (readValue depth) (rest.length + 1) [] rest).map fun (t, rest) =>
            (.object (valuesOf t), rest)
    | '"' :: _ => (readString? cs).map fun (s, rest) => (.string s, rest)
    | '\'' :: _ => (readString? cs).map fun (s, rest) => (.string s, rest)
    | _ => readScalar? cs

/-! ## Documents -/

/-- The text behind the end of a line: blanks, a comment, and a line break unless the text ends. -/
def afterLine? (cs : List Char) : Option (List Char) :=
  match skipComment (afterSpace cs) with
  | some [] => some []
  | some rest => afterBreak? rest
  | none => none

/-- Reads lines into a document, of which the table under a header is open. -/
def readLines : Nat → (header : List String) → Table → List Char → Option Table
  | 0, _, _, _ => none
  | fuel + 1, header, root, cs =>
    match afterSpace cs with
    | [] => some root
    | '[' :: '[' :: rest =>
      match readKeys? maxDepth rest with
      | some (keys, ']' :: ']' :: rest) =>
        match openItem keys root, afterLine? rest with
        | some root, some rest => readLines fuel keys root rest
        | _, _ => none
      | _ => none
    | '[' :: rest =>
      match readKeys? maxDepth rest with
      | some (keys, ']' :: rest) =>
        match openTable keys root, afterLine? rest with
        | some root, some rest => readLines fuel keys root rest
        | _, _ => none
      | _ => none
    | line =>
      match afterLine? line with
      | some rest => readLines fuel header root rest
      | none =>
        match readKeys? maxDepth line with
        | some (keys, '=' :: rest) =>
          match readValue maxDepth (afterSpace rest) with
          | none => none
          | some (v, rest) =>
            match defineUnder header keys v root, afterLine? rest with
            | some root, some rest => readLines fuel header root rest
            | _, _ => none
        | _ => none

/-- Reads a document. A byte order mark before it does not count. -/
def read? (text : String) : Option Value :=
  let cs :=
    match text.toList with
    | '\uFEFF' :: rest => rest
    | cs => cs
  (readLines (cs.length + 1) [] [] cs).map fun root => .object (valuesOf root)

/-- The library that runs. -/
instance standard : Library where
  read? := read?

end Automation.Toml
