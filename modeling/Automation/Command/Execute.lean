import Automation.Command.Invocation
import Automation.Config.File
import Automation.Execution.Engine
import Automation.Execution.Progress
import Automation.Regex.Reader
import Automation.Toml.Document
import Automation.Value.Reader
import Automation.Value.Text
import Automation.Web.Standard

/-!
# Commands

What the program prints, and the code that it ends with, for what it is asked to do. A run prints its
progress and then its outcome, and fails unless the run is completed. The first error is printed, and
nothing comes after it.
-/

namespace Automation

/-- The fields of an outcome in their order. -/
def Outcome.document (o : Outcome) : Value :=
  .object
    ([("executionId", .string o.executionId), ("workflowId", .string o.workflowId),
      ("status", .string o.status.name),
      ("results", .object (o.results.map fun entry => (entry.1, .object entry.2.toPairs)))] ++
      optionalField "error" .string o.error)

namespace Command

/-- What a command works with. -/
structure Surroundings where
  files : String → FileContent
  env : Environment.Variables
  network : Web.Network
  /-- The id of a run that names none. -/
  freshId : String
  /-- What stands for the milliseconds that a node takes. -/
  elapsed : String
  /-- The present time, if it is known. No command prints it. -/
  present : Option Timestamp := none

/-- What a command prints, and its code. -/
structure Answer where
  code : Nat
  output : String
  /-- The lines of progress and the error. -/
  messages : List String
  deriving Repr, DecidableEq

namespace Answer

/-- A success that prints something. -/
def printed (output : String) : Answer := ⟨0, output, []⟩

/-- A failure with an error. -/
def failed (message : String) : Answer := ⟨1, "", ["Error: " ++ message]⟩

/-- The answer to arguments that are not used correctly. -/
def misused : Answer := ⟨2, "", []⟩

/-- The answer of a program that breaks off. -/
def aborted : Answer := ⟨101, "", []⟩

end Answer

/-- The name of the program and its version. -/
def versionText : String := "rpaflow 0.3.0\n"

/-- The settings of a command. -/
def settings (s : Surroundings) (path : String) : Except String Config :=
  match Config.loadOrDefault s.env path (s.files path) with
  | .ok c => .ok c
  | .error e => .error e.message

/-- The workflow under a path. -/
def workflow (s : Surroundings) (path : String) : Except String Workflow :=
  match s.files path with
  | .text t =>
    match (Value.read t).bind fun v => Workflow.ofValue? v s.present with
    | some w => .ok w
    | none => .error ("failed to parse workflow " ++ path)
  | _ => .error ("failed to read workflow " ++ path)

/-- The input of a run, which is an object if there is any. -/
def input (text : Option String) : Except String (Option Fields) :=
  match text with
  | none => .ok none
  | some t =>
    match Value.parse t with
    | none => .error "--input is not valid JSON"
    | some (.object fields) => .ok (some fields)
    | some v => .error ("--input must be a JSON object, got " ++ v.compact)

/-! ## Checking a workflow -/

/-- The line of an issue. -/
def issueLine (issue : GraphIssue) : String :=
  let label :=
    match issue.severity with
    | .error => "error"
    | .warning => "warning"
  label ++ ": " ++ issue.message ++ "\n"

/-- Checks a workflow: every issue has a line, and a workflow without errors has a summary. -/
def validate (path : String) (w : Workflow) : Answer :=
  let issues := w.validate
  let errors := (issues.filter fun issue => issue.severity = .error).length
  let lines := String.join (issues.map issueLine)
  if 0 < errors then
    ⟨1, lines, ["Error: " ++ path ++ " has " ++ toString errors ++ " error(s)"]⟩
  else
    .printed (lines ++ w.name ++ ": " ++ toString w.nodes.length ++ " nodes, " ++
      toString w.edges.length ++ " edges, " ++ toString issues.length ++ " warning(s)\n")

/-! ## Running a workflow -/

/-- The browser of the program: there is none, so that every launch fails. -/
def missingBrowser (launches : Nat) : ScriptedBrowser :=
  { ScriptedBrowser.fresh with
    failures :=
      List.replicate launches (.launch, .launch "Could not auto detect a chrome executable") }

/-- How often a node launches the browser at most if no launch succeeds. -/
def launchesPerNode : Nat := 2

/-- Runs a request to its end. -/
def runRequest (s : Surroundings) (c : Config) (r : RunRequest) (quiet : Bool) : Answer :=
  let browser := missingBrowser (launchesPerNode * r.nodes.length)
  match Engine.open s.network c (Session.start browser) with
  | .aborted => .aborted
  | .failed e => .failed e.message
  | .opened e =>
    match e.run r with
    | .error error => .failed error.message
    | .ok (outcome, ended) =>
      let printer := Printer.follow s.elapsed e.state.channel ended.state.channel.sent
      let progress := if quiet then [] else printer.lines
      let output := outcome.document.pretty 0 ++ "\n"
      if outcome.status = .completed then ⟨0, output, progress⟩
      else ⟨1, output, progress ++ ["Error: workflow run " ++ outcome.status.name]⟩

/-- Runs a workflow: with its settings, its definition and its input, read in this order. -/
def run (s : Surroundings) (settingsPath path : String) (inputText executionId : Option String)
    (quiet : Bool) : Except String Answer := do
  let c ← settings s settingsPath
  let w ← workflow s path
  let i ← input inputText
  pure (runRequest s c ⟨w.id, executionId.getD s.freshId, w.nodes, w.edges, i⟩ quiet)

/-- Does what the program is asked to do. -/
def execute (s : Surroundings) (invocation : Invocation) : Answer :=
  let answer : Except String Answer :=
    match invocation with
    | .version => .ok (.printed versionText)
    | .config path => (settings s path).map fun c => .printed (c.text ++ "\n")
    | .validate path => (workflow s path).map (validate path)
    | .run settingsPath path inputText executionId quiet =>
      run s settingsPath path inputText executionId quiet
  match answer with
  | .ok a => a
  | .error message => .failed message

/-- Answers arguments. -/
def answer (s : Surroundings) (arguments : List String) : Answer :=
  match Invocation.ofArguments? (s.env.lookup Invocation.settingsVariable) arguments with
  | some invocation => execute s invocation
  | none => .misused

end Command

end Automation
