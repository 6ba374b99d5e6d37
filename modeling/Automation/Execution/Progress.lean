import Automation.Execution.Event

/-!
# Progress

A printer receives the events of a run, one at a time, and prints a line for each of them until the
run has ended. It loses the events that are no longer retained when its turn comes.
-/

namespace Automation

/-- The line of an event; the beginning of a run has none. How long a node took is no part of an
event, so the caller says what stands for it. -/
def EventKind.line? (elapsed : String) : EventKind → Option String
  | runStarted _ => none
  | nodeStarted id type => some ("[" ++ type ++ ": " ++ id ++ "]")
  | nodeFinished id success =>
    some ("[" ++ id ++ ": " ++ (if success then "ok" else "FAILED") ++ " in " ++ elapsed ++ "ms]")
  | runCompleted visited => some ("[done: " ++ toString visited ++ " nodes]")
  | runFailed error => some ("[error: " ++ error ++ "]")
  | runCanceled => some "[canceled]"

/-- A printer: what it waits for, what it has printed, and the event that ended the run. -/
structure Printer where
  position : Nat
  lines : List String
  last : Option Event

namespace Printer

/-- A printer that has received nothing. -/
def start : Printer := ⟨0, [], none⟩

/-- Receives once. After the end of the run nothing is received any more. -/
def step (elapsed : String) (c : Channel Event) (p : Printer) : Printer :=
  match p.last with
  | some _ => p
  | none =>
    match c.receive p.position with
    | (.message e, position) =>
      ⟨position, p.lines ++ (e.kind.line? elapsed).toList,
        if e.kind.isTerminal then some e else none⟩
    | (_, position) => { p with position }

/-- A printer that receives every event as soon as it is sent. -/
def follow (elapsed : String) (c : Channel Event) (events : List Event) : Printer :=
  (events.foldl (fun (c, p) e => let c := c.send e; (c, step elapsed c p)) (c, start)).2

end Printer

end Automation
