import Automation.Command.Execute

/-!
# The program

Reads the files that the arguments name, has the command answered and prints the answer. The
variables of the environment are those that the settings refer to.
-/

namespace Automation.Command

/-- What there is under a path. -/
def readPath (path : String) : IO FileContent := do
  try
    let text ← IO.FS.readFile path
    pure (.text text)
  catch e =>
    match e with
    | .noFileOrDirectory _ _ _ => pure .missing
    | _ => pure .unreadable

/-- The names in the references of a text. `open?` holds the name that is being read, if one is,
with its last character first. -/
def referencedNames : (open? : Option (List Char)) → List Char → List String
  | none, [] => []
  | some name, [] => [String.ofList name.reverse]
  | none, '$' :: '\x7b' :: rest => referencedNames (some []) rest
  | none, _ :: rest => referencedNames none rest
  | some name, c :: rest =>
    if c = '\x7d' then String.ofList name.reverse :: referencedNames none rest
    else referencedNames (some (c :: name)) rest

/-- The values of variables that are set. -/
def readVariables (names : List String) : IO Environment.Variables := do
  let values ← names.mapM fun name => do
    let value ← IO.getEnv name
    pure (value.map fun v => (name, v))
  pure (values.filterMap id)

/-- The surroundings of an invocation. -/
def readSurroundings (environment : Option String) (arguments : List String) : IO Surroundings := do
  let paths := ((Invocation.ofArguments? environment arguments).map Invocation.files).getD []
  let contents ← paths.mapM readPath
  let found := paths.zip contents
  let names := contents.flatMap fun content =>
    match content with
    | .text t => referencedNames none t.toList
    | _ => []
  let env ← readVariables (Invocation.settingsVariable :: names)
  let id ← IO.rand 0 (Nat.pow 2 64 - 1)
  pure
    { files := fun path => (found.lookup path).getD .missing
      env
      network := fun _ => none
      freshId := toString id
      elapsed := "?" }

end Automation.Command

open Automation.Command in
/-- Answers the arguments of the program. -/
def main (arguments : List String) : IO UInt32 := do
  let environment ← IO.getEnv Invocation.settingsVariable
  let surroundings ← readSurroundings environment arguments
  let answer := answer surroundings arguments
  for message in answer.messages do
    IO.eprintln message
  IO.print answer.output
  pure (UInt32.ofNat answer.code)
