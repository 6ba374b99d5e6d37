import Automation.Execution.Error
import Automation.Execution.Status
import Automation.Execution.Watch

/-!
# The registry of runs

Every run that was registered and not yet forgotten, under its execution id. A registration has a
number, under which its outcome and a request to cancel it are kept: whoever waits for a run holds
that number, so a run that is forgotten, or whose id is registered anew, still answers its own
outcome. A run counts as ended once its outcome is recorded.
-/

namespace Automation

/-- A tracked run and its registration. -/
structure Slot where
  registration : Nat
  execution : Execution

/-- The tracked runs, with the outcomes and cancellations of all registrations. -/
structure Registry where
  slots : List (String × Slot)
  /-- The number of the next registration. -/
  next : Nat
  outcomes : List (Nat × Outcome)
  canceled : List Nat

/-- How far a run has come. -/
inductive RunState where
  | pending
  | running
  | completed
  | failed
  | canceled
  | terminated
  | timedOut
  deriving Repr, DecidableEq

/-- What is known about a run. -/
structure RunDescription where
  state : RunState
  outcome : Option Outcome
  failure : Option String

namespace Registry

/-- The registry of no runs. -/
def empty : Registry := ⟨[], 0, [], []⟩

/-- The run under an id. -/
def find? (id : String) : List (String × Slot) → Option Slot
  | [] => none
  | (k, s) :: rest => if k = id then some s else find? id rest

/-- The run under an id, or the error that there is none. -/
def slot (g : Registry) (id : String) : Except RunError Slot :=
  match find? id g.slots with
  | some s => .ok s
  | none => .error (.executionNotFound id)

/-- Changes the execution under an id. -/
def changed (id : String) (f : Execution → Execution) (slots : List (String × Slot)) :
    List (String × Slot) :=
  slots.map fun entry =>
    if entry.1 = id then (entry.1, { entry.2 with execution := f entry.2.execution }) else entry

/-- The outcome of a registration, once it is recorded. -/
def received? (g : Registry) (registration : Nat) : Option Outcome :=
  (g.outcomes.find? fun entry => entry.1 == registration).map (·.2)

/-- Whether a registration was asked to stop. -/
def isCanceled (g : Registry) (registration : Nat) : Bool :=
  g.canceled.contains registration

/-- Registers a run and answers the number of the registration. An id that is tracked is
refused. -/
def register (g : Registry) (id workflowId : String) : Except RunError (Registry × Nat) :=
  match find? id g.slots with
  | some _ => .error (.orchestration ("Execution '" ++ id ++ "' already exists"))
  | none =>
    let slot : Slot := ⟨g.next, Execution.pending id workflowId⟩
    .ok ({ g with slots := g.slots ++ [(id, slot)], next := g.next + 1 }, g.next)

/-- Applies an update to its run. -/
def publish (g : Registry) (update : StatusUpdate) : Except RunError Registry := do
  let _ ← g.slot update.executionId
  pure { g with slots := changed update.executionId (·.apply update) g.slots }

/-- Records the outcome of a run. It also ends a run whose last update never arrived. -/
def finish (g : Registry) (outcome : Outcome) : Registry :=
  match find? outcome.executionId g.slots with
  | none => g
  | some slot =>
    let update : StatusUpdate :=
      ⟨outcome.executionId, outcome.status, some outcome.results, outcome.error⟩
    { g with
      slots := changed outcome.executionId (·.apply update) g.slots
      outcomes := (slot.registration, outcome) :: g.outcomes }

/-- The registration that a waiter for a run holds on to. -/
def subscribe (g : Registry) (id : String) : Except RunError Nat :=
  (g.slot id).map Slot.registration

/-- The outcome of a registration as a waiter watches it. Its sender is gone once the registration
is not tracked any more. -/
def watch (g : Registry) (registration : Nat) : Watch (Option Outcome) :=
  ⟨g.received? registration, g.slots.any fun entry => entry.2.registration == registration⟩

/-- What a waiter for a run is answered that holds on to a registration, or nothing as long as it
has to wait. -/
def poll (g : Registry) (id : String) (registration : Nat) : Option (Except RunError Outcome) :=
  match (g.watch registration).waitFor Option.isSome with
  | .waiting => none
  | .closed => some (.error (.orchestration ("Run '" ++ id ++ "' was dropped")))
  | .value (some outcome) => some (.ok outcome)
  | .value none => some (.error (.orchestration ("Run '" ++ id ++ "' has no outcome")))

/-- What is known about a run. -/
def describe (g : Registry) (id : String) : Except RunError RunDescription := do
  let slot ← g.slot id
  match g.received? slot.registration with
  | none =>
    let state := if slot.execution.status = .pending then RunState.pending else .running
    pure ⟨state, none, none⟩
  | some outcome =>
    let state :=
      match outcome.status with
      | .completed => RunState.completed
      | .canceled => .canceled
      | _ => .failed
    pure ⟨state, some outcome, outcome.error⟩

/-- Asks a run to stop. A run that has ended refuses. -/
def cancel (g : Registry) (id : String) : Except RunError (Registry × Bool) := do
  let slot ← g.slot id
  match g.received? slot.registration with
  | some _ => pure (g, false)
  | none => pure ({ g with canceled := slot.registration :: g.canceled }, true)

/-- Drops a run that has ended; any other is kept. -/
def forget (g : Registry) (id : String) : Registry × Bool :=
  match find? id g.slots with
  | none => (g, false)
  | some slot =>
    match g.received? slot.registration with
    | none => (g, false)
    | some _ => ({ g with slots := g.slots.filter fun entry => entry.1 ≠ id }, true)

/-- The number of runs that are tracked. -/
def tracked (g : Registry) : Nat := g.slots.length

/-- The execution under an id. -/
def execution? (g : Registry) (id : String) : Option Execution :=
  (find? id g.slots).map Slot.execution

end Registry

end Automation
