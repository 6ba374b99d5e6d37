import Automation.Execution.Dispatch
import Automation.Proofs.Correspondence
import Automation.Proofs.Engine.Runs
import Automation.Proofs.Walk.Redrawn

/-!
# What moves tell, and what they are answered

A run handles nodes of its graph and tells events of its own (`Course.of_run`). So a step of a task
may tell an event (`Runs.told`), and a task that asks for a node to be handled is answered what the
dispatcher may end with for that node (`Runs.Honest`).
-/

namespace Automation

/-- What an activity may end with, whatever the state is at each of its steps. -/
inductive Activity.Yields : Activity σ α → α → Prop where
  | done (a : α) : Yields (done a) a
  | read {next : σ → Activity σ α} {a : α} (s : σ) (h : Yields (next s) a) : Yields (read next) a
  | write {next : Activity σ α} {a : α} (change : σ → σ) (h : Yields next a) :
    Yields (write change next) a
  | pause {next : Activity σ α} {a : α} (reason : Pause) (h : Yields next a) :
    Yields (pause reason next) a

theorem Activity.Always.yields {P : α → Prop} {x : Activity σ α} (h : x.Always P) {a : α}
    (yields : x.Yields a) : P a := by
  induction yields with
  | done a => exact h
  | read s _ ih => exact ih (h s)
  | write change _ ih => exact ih h
  | pause reason _ ih => exact ih h

/-- The events that the next request of a course tells: one or none. -/
def Course.tells : Course α → List Event
  | emit event _ => [event]
  | _ => []

/-! ## Courses of a request -/

/-- A course of a request: it handles nodes of its graph and tells events of its own. -/
inductive Course.Of (r : RunRequest) : Course α → Prop where
  | done (a : α) : Of r (.done a)
  | check {next : Bool → Course α} (h : ∀ b, Of r (next b)) : Of r (.check next)
  | handle {n : Node} {context : Fields} {next : Except RunError NodeResult → Course α}
    (there : n ∈ r.nodes) (h : ∀ answer, Of r (next answer)) : Of r (.handle n context next)
  | emit {event : Event} {next : Course α} (own : event.executionId = r.executionId)
    (h : Of r next) : Of r (.emit event next)
  | publish {u : StatusUpdate} {next : Except RunError Unit → Course α}
    (h : ∀ answer, Of r (next answer)) : Of r (.publish u next)

namespace Course

variable {r : RunRequest}

theorem Of.bind {t : Course α} {f : α → Course β} (h : t.Of r) (hf : ∀ a, (f a).Of r) :
    (t >>= f).Of r := by
  show (t.bind f).Of r
  induction h with
  | done a => exact hf a
  | check _ ih => exact .check ih
  | handle there _ ih => exact .handle there ih
  | emit own _ ih => exact .emit own ih
  | publish _ ih => exact .publish ih

theorem Of.tells {t : Course α} (h : t.Of r) :
    ∀ event ∈ t.tells, event.executionId = r.executionId := by
  intro event there
  cases h with
  | emit own _ =>
    cases List.mem_singleton.mp there
    exact own
  | _ => cases there

theorem of_visit {n : Node} (there : n ∈ r.nodes) (results : Results) :
    (visit services r n results).Of r := by
  refine .emit rfl (.handle there fun answer => ?_)
  cases answer with
  | error e => exact .done _
  | ok result => exact .emit rfl (.done _)

theorem of_arrive (policy : RevisitPolicy) (n : Node) (results : Results)
    {goOn : Unit → Course Walked} (h : (goOn ()).Of r) :
    (arrive services policy n results goOn).Of r := by
  refine .check fun canceled => ?_
  show Of r (if canceled = true then _ else _)
  split
  · exact .done _
  · split
    · exact .done _
    · exact h

variable [Regex.Library]

theorem of_walkFrom (policy : RevisitPolicy) (room : Nat) {n : Node} (there : n ∈ r.nodes)
    (results : Results) : (walkFrom services policy r room n results).Of r := by
  induction room generalizing n results with
  | zero => exact of_arrive policy n results (.done _)
  | succ room ih =>
    refine of_arrive policy n results ((of_visit there results).bind fun visited => ?_)
    cases visited with
    | error e => exact .done _
    | ok results =>
      dsimp only
      split
      · exact .done _
      · split
        · exact .done _
        next next after => exact ih (RunRequest.mem_of_nodeAfter after) _

/-- A run handles nodes of its graph and tells events of its own. -/
theorem of_run (policy : RevisitPolicy) (r : RunRequest) : (r.run services policy).Of r := by
  have walks : (walk services policy r).Of r := by
    unfold walk
    split
    · exact .done _
    next n start => exact of_walkFrom policy _ (List.mem_of_find?_eq_some start) []
  have closes (w : Walked) : (r.closing w).Of r := .publish fun _ => .emit rfl (.done _)
  exact .publish fun _ => .emit rfl (walks.bind closes)

end Course

/-! ## What moves tell -/

/-- Whether a move is a call of a client. Any other is a step of a task. -/
def Move.isCall : Move → Bool
  | task _ _ => false
  | _ => true

namespace Runs

/-- The events that a move tells. -/
def tells (s : Runs) : Move → List Event
  | .task i _ =>
    match s.tasks[i]? with
    | some (some t) => t.rest.tells
    | _ => []
  | _ => []

theorem getElem?_set_there {tasks : List α} {i : Nat} {a : α} (there : tasks[i]? = some a) (b : α) :
    (tasks.set i b)[i]? = some b :=
  List.getElem?_set_self (List.getElem?_eq_some_iff.mp there).1

variable [Regex.Library]

/-- The events that some moves in a row tell. -/
def told (policy : RevisitPolicy) : List Move → Runs → List Event
  | [], _ => []
  | m :: ms, s => s.tells m ++ told policy ms (s.move policy m)

theorem told_append (policy : RevisitPolicy) (ms ms' : List Move) (s : Runs) :
    told policy (ms ++ ms') s = told policy ms s ++ told policy ms' (s.moves policy ms) := by
  induction ms generalizing s with
  | nil => rfl
  | cons m ms ih =>
    rw [List.cons_append, told, told, ih, List.append_assoc]
    rfl

variable [Web.Library] {d : Dispatcher} {policy : RevisitPolicy}

/-- Whether a move answers a node that is to be handled as the dispatcher may. -/
def Answered (d : Dispatcher) (s : Runs) : Move → Prop
  | .task i answer => ∀ t n context next, s.tasks[i]? = some (some t) →
    t.rest = .handle n context next → (d.execute n context).Yields answer
  | _ => True

/-- Whether some moves in a row do. -/
def Honest (d : Dispatcher) (policy : RevisitPolicy) : List Move → Runs → Prop
  | [], _ => True
  | m :: ms, s => s.Answered d m ∧ Honest d policy ms (s.move policy m)

theorem Honest.append {ms ms' : List Move} {s : Runs} (h : Honest d policy ms s)
    (h' : Honest d policy ms' (s.moves policy ms)) : Honest d policy (ms ++ ms') s := by
  induction ms generalizing s with
  | nil => exact h'
  | cons m ms ih => exact ⟨h.1, ih h.2 h'⟩

/-- Some moves are honest, what they tell is sent, and some calls of clients are those among
them. -/
structure Plays (d : Dispatcher) (policy : RevisitPolicy) (calls ms : List Move) (s : Runs)
    (sent sent' : List Event) : Prop where
  honest : Honest d policy ms s
  sent : sent' = sent ++ told policy ms s
  calls : ms.filter Move.isCall = calls

theorem Plays.none {s : Runs} {sent sent' : List Event} (same : sent' = sent) :
    Plays d policy [] [] s sent sent' :=
  ⟨trivial, by rw [same, told, List.append_nil], rfl⟩

theorem Plays.append {calls calls' ms ms' : List Move} {s : Runs} {sent sent' sent'' : List Event}
    (h : Plays d policy calls ms s sent sent')
    (h' : Plays d policy calls' ms' (s.moves policy ms) sent' sent'') :
    Plays d policy (calls ++ calls') (ms ++ ms') s sent sent'' :=
  ⟨h.honest.append h'.honest, by rw [told_append, h'.sent, h.sent, List.append_assoc],
    by rw [List.filter_append, h.calls, h'.calls]⟩

end Runs

end Automation
