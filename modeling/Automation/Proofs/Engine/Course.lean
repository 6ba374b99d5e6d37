import Automation.Execution.Walk
import Automation.Proofs.Engine.Registry

/-!
# The course of a run

A run works in any monad. In the monad `Course` it is nothing but the tree of what it asks its
services for, so that it can be taken one request at a time, with anything in between. A run asks to
publish two updates: that it has started, before it walks, and what it has become, behind the walk
(`Phase`).
-/

namespace Automation

/-- What is left of a run: an answer, or a request to a service and what follows each answer to
it. -/
inductive Course (α : Type) where
  | done (a : α)
  | check (next : Bool → Course α)
  | handle (n : Node) (context : Fields) (next : Except RunError NodeResult → Course α)
  | emit (event : Event) (next : Course α)
  | publish (u : StatusUpdate) (next : Except RunError Unit → Course α)

namespace Course

/-- One course after another. -/
protected def bind : Course α → (α → Course β) → Course β
  | done a, f => f a
  | check next, f => check fun b => (next b).bind f
  | handle n context next, f => handle n context fun answer => (next answer).bind f
  | emit event next, f => emit event (next.bind f)
  | publish u next, f => publish u fun answer => (next answer).bind f

instance : Monad Course where
  pure := done
  bind := Course.bind

/-- Every request is a step of its own. -/
def services : Services Course where
  canceled := check done
  handle n context := handle n context done
  emit event := emit event (done ())
  publish u := publish u done

/-! ## Walks publish nothing -/

/-- Whether a course never asks to publish an update. -/
inductive Quiet : Course α → Prop where
  | done (a) : Quiet (done a)
  | check {next} (h : ∀ b, Quiet (next b)) : Quiet (check next)
  | handle {n context next} (h : ∀ answer, Quiet (next answer)) : Quiet (handle n context next)
  | emit {event next} (h : Quiet next) : Quiet (emit event next)

theorem Quiet.bind {t : Course α} {f : α → Course β} (h : t.Quiet) (hf : ∀ a, (f a).Quiet) :
    (t >>= f).Quiet := by
  show (t.bind f).Quiet
  induction h with
  | done a => exact hf a
  | check _ ih => exact .check ih
  | handle _ ih => exact .handle ih
  | emit _ ih => exact .emit ih

theorem quiet_visit (r : RunRequest) (n : Node) (results : Results) :
    (visit services r n results).Quiet := by
  refine .emit (.handle fun answer => ?_)
  cases answer with
  | error e => exact .done _
  | ok result => exact .emit (.done _)

theorem quiet_arrive (policy : RevisitPolicy) (n : Node) (results : Results)
    {goOn : Unit → Course Walked} (h : (goOn ()).Quiet) :
    (arrive services policy n results goOn).Quiet := by
  refine .check fun canceled => ?_
  show Quiet (if canceled = true then _ else _)
  split
  · exact .done _
  · split
    · exact .done _
    · exact h

theorem quiet_walkFrom [Regex.Library] (policy : RevisitPolicy) (r : RunRequest) (room : Nat)
    (n : Node) (results : Results) : (walkFrom services policy r room n results).Quiet := by
  induction room generalizing n results with
  | zero => exact quiet_arrive policy n results (.done _)
  | succ room ih =>
    refine quiet_arrive policy n results ((quiet_visit r n results).bind fun visited => ?_)
    cases visited with
    | error e => exact .done _
    | ok results =>
      dsimp only
      split
      · exact .done _
      · split
        · exact .done _
        · exact ih _ _

theorem quiet_walk [Regex.Library] (policy : RevisitPolicy) (r : RunRequest) :
    (walk services policy r).Quiet := by
  unfold walk
  split
  · exact .done _
  · exact quiet_walkFrom policy r _ _ _

end Course

/-! ## Phases -/

/-- A run on its walk: the only update that is left is what it becomes, behind the walk. -/
inductive Underway (r : RunRequest) : Course Outcome → Prop where
  | check {next} (h : ∀ b, Underway r (next b)) : Underway r (.check next)
  | handle {n context next} (h : ∀ answer, Underway r (next answer)) :
    Underway r (.handle n context next)
  | emit {event next} (h : Underway r next) : Underway r (.emit event next)
  | closing (w : Walked) (event : Event) :
    Underway r (.publish (.ended r.executionId w.ending.status w.results w.ending.error?) fun _ =>
      .emit event (.done (r.outcome w)))

/-- What a run does behind its walk. -/
def RunRequest.closing (r : RunRequest) (w : Walked) : Course Outcome := do
  let _ ← Course.services.publish (.ended r.executionId w.ending.status w.results w.ending.error?)
  Course.services.emit ⟨r.executionId, w.ending.event w.results.length⟩
  pure (r.outcome w)

theorem Course.Quiet.underway (r : RunRequest) {t : Course Walked} (h : t.Quiet) :
    Underway r (t.bind r.closing) := by
  induction h with
  | done w => exact .closing w _
  | check _ ih => exact .check ih
  | handle _ ih => exact .handle ih
  | emit _ ih => exact .emit ih

/-- An execution that has come as far as a status, with nothing known of its end. -/
structure Execution.Unended (e : Execution) (status : Status) : Prop where
  status : e.status = status
  result : e.result = none
  error : e.error = none

/-- What is left of a run, and how the execution that its updates are applied to stands. -/
inductive Phase (r : RunRequest) : Course Outcome → Execution → Prop where
  | fresh {next e} (walks : ∀ a, Underway r (next a)) (h : e.Unended .pending) :
    Phase r (.publish (.started r.executionId) next) e
  | walking {t e} (walks : Underway r t) (h : e.Unended .running) : Phase r t e
  | ended {e} (w : Walked) (event : Event) (h : e.Records (r.outcome w)) :
    Phase r (.emit event (.done (r.outcome w))) e
  | gone {e} (w : Walked) (h : e.Records (r.outcome w)) : Phase r (.done (r.outcome w)) e

/-- A run begins in its first phase. -/
theorem phase_run [Regex.Library] (policy : RevisitPolicy) (r : RunRequest)
    (id workflowId : String) :
    Phase r (r.run Course.services policy) (.pending id workflowId) :=
  .fresh (fun _ => .emit ((Course.quiet_walk policy r).underway r)) ⟨rfl, rfl, rfl⟩

theorem Ending.status_isTerminal (ending : Ending) : ending.status.isTerminal = true := by
  cases ending <;> rfl

theorem Ending.error?_isSome (ending : Ending) :
    ending.error?.isSome = true ↔ ending.status = .failed := by
  cases ending <;> simp [error?, status]

theorem Execution.apply_unended {e : Execution} (u : StatusUpdate) {status : Status}
    (h : e.Unended status) (begun : status.isTerminal = false) :
    (e.apply u).status = u.status ∧ (e.apply u).result = u.result ∧ (e.apply u).error = u.error := by
  have going : ¬e.status.isTerminal = true := by simp [h.status, begun]
  rw [Execution.apply, if_neg going]
  exact ⟨rfl, by simp [h.result], by simp [h.error]⟩

namespace Phase

variable {r : RunRequest} {e : Execution}

theorem check {next : Bool → Course Outcome} (h : Phase r (.check next) e) (b : Bool) :
    Phase r (next b) e := by
  cases h with
  | walking walks h =>
    cases walks with
    | check walks => exact .walking (walks b) h

theorem handle {n : Node} {context : Fields} {next : Except RunError NodeResult → Course Outcome}
    (h : Phase r (.handle n context next) e) (answer : Except RunError NodeResult) :
    Phase r (next answer) e := by
  cases h with
  | walking walks h =>
    cases walks with
    | handle walks => exact .walking (walks answer) h

theorem emit {event : Event} {next : Course Outcome} (h : Phase r (.emit event next) e) :
    Phase r next e := by
  cases h with
  | walking walks h =>
    cases walks with
    | emit walks => exact .walking walks h
  | ended w _ h => exact .gone w h

/-- A run publishes updates of its own execution, which move it on. -/
theorem publish {u : StatusUpdate} {next : Except RunError Unit → Course Outcome}
    (h : Phase r (.publish u next) e) :
    u.executionId = r.executionId ∧ (e.apply u).status ≠ .pending ∧
      ∀ answer, Phase r (next answer) (e.apply u) := by
  cases h with
  | fresh walks h =>
    obtain ⟨status, result, error⟩ := Execution.apply_unended (.started r.executionId) h rfl
    refine ⟨rfl, ?_, fun answer => .walking (walks answer) ⟨status, result, error⟩⟩
    rw [status]
    simp [StatusUpdate.started]
  | walking walks h =>
    cases walks with
    | closing w event =>
      obtain ⟨status, result, error⟩ := Execution.apply_unended
        (.ended r.executionId w.ending.status w.results w.ending.error?) h rfl
      refine ⟨rfl, ?_, fun _ => .ended w event ⟨status, result, error⟩⟩
      rw [status]
      cases w.ending <;> simp [StatusUpdate.ended, Ending.status]

/-- A run that is over has an outcome, which its execution knows. -/
theorem done {o : Outcome} (h : Phase r (.done o) e) :
    o.executionId = r.executionId ∧ o.Final ∧ e.Records o := by
  cases h with
  | walking walks h => cases walks
  | gone w h => exact ⟨rfl, ⟨w.ending.status_isTerminal, w.ending.error?_isSome⟩, h⟩

end Phase

end Automation
