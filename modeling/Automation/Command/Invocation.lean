import Automation.Command.Arguments

/-!
# Invocations

What the program is asked to do. The path of the settings comes from an option before the command,
or from the environment, or is the default one.
-/

namespace Automation.Command

/-- What the program is asked to do. -/
inductive Invocation where
  | version
  /-- To print the settings. -/
  | config (settings : String)
  /-- To check a workflow. -/
  | validate (workflow : String)
  /-- To run a workflow. -/
  | run (settings workflow : String) (input executionId : Option String) (quiet : Bool)
  deriving Repr, DecidableEq

namespace Invocation

/-- The path of the settings if none is given. -/
def defaultSettings : String := "rpaflow.toml"

/-- The variable of the environment that holds the path of the settings. -/
def settingsVariable : String := "RPAFLOW_CONFIG"

/-- What may stand before a command. -/
def grammar : Grammar :=
  ⟨[⟨"config", some 'c', true, false⟩, ⟨"version", some 'V', false, true⟩], 0, true, some "version"⟩

/-- The arguments of a command without options. -/
def plainGrammar (words : Nat) : Grammar := ⟨[], words, false, none⟩

/-- The arguments of the command that runs a workflow. -/
def runGrammar : Grammar :=
  ⟨[⟨"input", some 'i', true, true⟩, ⟨"execution-id", none, true, true⟩,
    ⟨"quiet", some 'q', false, true⟩], 1, false, none⟩

/-- The path of the settings. A path that is given is not empty. -/
def settings? (environment : Option String) (r : Reading) : Option String :=
  match r.get? "config" with
  | some path => some path
  | none =>
    match environment with
    | some "" => none
    | some path => some path
    | none => some defaultSettings

/-- Reads the arguments of a command. -/
def ofCommand? (settings : String) : List String → Option Invocation
  | "config" :: rest => (Reading.ofArguments (plainGrammar 0) rest).map fun _ => .config settings
  | "validate" :: rest =>
    match Reading.ofArguments (plainGrammar 1) rest with
    | some ⟨_, [workflow], _, _⟩ => some (.validate workflow)
    | _ => none
  | "run" :: rest =>
    match Reading.ofArguments runGrammar rest with
    | some r =>
      match r.words with
      | [workflow] =>
        some (.run settings workflow (r.get? "input") (r.get? "execution-id") (r.has "quiet"))
      | _ => none
    | none => none
  | _ => none

/-- Reads arguments. Nothing is read from arguments that are not used correctly. -/
def ofArguments? (environment : Option String) (arguments : List String) : Option Invocation := do
  let r ← Reading.ofArguments grammar arguments
  if r.has "version" then pure .version
  else
    let settings ← settings? environment r
    ofCommand? settings r.words

/-- The files that an invocation reads. -/
def files : Invocation → List String
  | version => []
  | config settings => [settings]
  | validate workflow => [workflow]
  | run settings workflow _ _ _ => [settings, workflow]

end Invocation

end Automation.Command
