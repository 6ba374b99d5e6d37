import Automation.Execution.Engine
import Automation.Proofs.Correspondence

/-!
# The outside of a run

A run learns two things from outside: at each check whether it is asked to stop, and for each node
what its handler answers. `Outside` is whatever gives these answers. They may depend on anything: a
schedule of cancels and a list of answers, the clock, the browser, other runs; all of that is the
state `σ`. What a handler answers to a node is an answer that the dispatcher can give
(`Node.Answers`, `Dispatcher.execute_answers`).

A `Script` is an outside that is nothing but answers in a row. Whatever other tasks do to the state
that they share, a run in the engine is a run with a script (`run_scripted`).

`Log` is what a run asked and was answered. A run with a log has the outcome of the run without one
(`run_logged`).
-/

namespace Automation

/-! ## What handlers answer -/

/-- Whether a node runs a script. -/
def Node.RunsScript (n : Node) : Prop :=
  ∃ s, n.kind = .script s

/-- What a handler answers to a node: a result if its type is known, an error of its own if it is
not, and the violation of a limit if it runs a script. -/
inductive Node.Answers (n : Node) : Except RunError NodeResult → Prop where
  | result (r : NodeResult) (known : n.isUnsupported = false) : Answers n (.ok r)
  | unsupported (unknown : n.isUnsupported = true) :
    Answers n (.error (.unsupportedNodeType n.id))
  | sandbox (text : String) (script : n.RunsScript) : Answers n (.error (.scriptSandbox n.id text))

/-- A script ends with a result or with the violation of a limit. -/
theorem ScriptNode.result_answers [Regex.Library] (limits : Script.Limits) (n : Node)
    (s : ScriptNode) (h : n.kind = .script s) (context : Fields) :
    n.Answers (s.result limits n.id context) := by
  have known : n.isUnsupported = false := by simp [Node.isUnsupported, h]
  unfold ScriptNode.result
  split
  · exact .result _ known
  · split
    · exact .sandbox _ ⟨s, h⟩
    · exact .result _ known

/-- **The contract of the dispatcher.** Whatever the browser, the network and the other tasks do, it
answers a node as `Node.Answers` says. -/
theorem Dispatcher.execute_answers [Regex.Library] [Web.Library] (d : Dispatcher) (n : Node)
    (context : Fields) :
    (d.execute n context).Always n.Answers := by
  unfold Dispatcher.execute
  split
  case h_5 a h =>
    refine Activity.always_bind (P := fun _ => True)
      (Activity.always_of_forall (fun _ => trivial) _) fun r _ => ?_
    exact .result r (by simp [Node.isUnsupported, h])
  case h_6 milliseconds h =>
    refine Activity.always_bind (P := fun _ => True)
      (Activity.always_of_forall (fun _ => trivial) _) fun _ _ => ?_
    exact .result _ (by simp [Node.isUnsupported, h])
  case h_8 s h => exact s.result_answers d.limits n h context
  case h_9 h => exact .unsupported (by simp [Node.isUnsupported, h])
  all_goals
    rename_i h
    exact .result _ (by simp [Node.isUnsupported, h])

/-! ## Where answers come from -/

/-- What gives a run its answers. -/
structure Outside (σ : Type) extends Services (StateM σ) where
  honest : ∀ (n : Node) context w, n.Answers ((handle n context).run w).1

/-! ## Runs in corresponding monads -/

section

variable {m n : Type → Type} [Monad m] [Monad n]

/-- Services that correspond. -/
structure Services.Corresponds (R : Correspondence m n) (s : Services m) (t : Services n) :
    Prop where
  canceled : R.Holds s.canceled t.canceled
  handle : ∀ node context, R.Holds (s.handle node context) (t.handle node context)
  emit : ∀ event, R.Holds (s.emit event) (t.emit event)
  publish : ∀ u, R.Holds (s.publish u) (t.publish u)

variable {R : Correspondence m n} {s : Services m} {t : Services n}

theorem visit_corresponds (h : s.Corresponds R t) (r : RunRequest) (node : Node)
    (results : Results) : R.Holds (visit s r node results) (visit t r node results) := by
  refine R.bind (h.emit _) fun _ => R.bind (h.handle _ _) fun answer => ?_
  cases answer with
  | error e => exact R.pure _
  | ok result => exact R.bind (h.emit _) fun _ => R.pure _

theorem arrive_corresponds (h : s.Corresponds R t) (policy : RevisitPolicy) (node : Node)
    (results : Results) {goOn : Unit → m Walked} {goOn' : Unit → n Walked}
    (on : R.Holds (goOn ()) (goOn' ())) :
    R.Holds (arrive s policy node results goOn) (arrive t policy node results goOn') := by
  refine R.bind h.canceled fun canceled => ?_
  split
  · exact R.pure _
  · split
    · exact R.pure _
    · exact on

theorem walkFrom_corresponds [Regex.Library] (h : s.Corresponds R t) (policy : RevisitPolicy)
    (r : RunRequest) (room : Nat) (node : Node) (results : Results) :
    R.Holds (walkFrom s policy r room node results) (walkFrom t policy r room node results) := by
  induction room generalizing node results with
  | zero => exact arrive_corresponds h policy node results (R.pure _)
  | succ room ih =>
    refine arrive_corresponds h policy node results ?_
    refine R.bind (visit_corresponds h r node results) fun visited => ?_
    cases visited with
    | error e => exact R.pure _
    | ok results =>
      dsimp only
      split
      · exact R.pure _
      · split
        · exact R.pure _
        · exact ih _ _

/-- A run cannot tell corresponding services from one another. -/
theorem run_corresponds [Regex.Library] (h : s.Corresponds R t) (policy : RevisitPolicy)
    (r : RunRequest) :
    R.Holds (r.run s policy) (r.run t policy) := by
  refine R.bind (h.publish _) fun _ => R.bind (h.emit _) fun _ => R.bind ?_ fun w =>
    R.bind (h.publish _) fun _ => R.bind (h.emit _) fun _ => R.pure _
  unfold walk
  split
  · exact R.pure _
  · exact walkFrom_corresponds h policy r _ _ _

end

/-! ## Scripts -/

/-- What is still to be answered to a run. Where nothing is left, the run is not asked to stop, nodes
succeed and updates arrive. -/
structure Script where
  cancels : List Bool
  answers : List (Except RunError NodeResult)
  deliveries : List (Except RunError Unit)

/-- The answer to a node that comes closest to one of a script: the answer itself, if it is one that
a handler can give. -/
def Node.allow (n : Node) (answer : Except RunError NodeResult) : Except RunError NodeResult :=
  if n.isUnsupported then .error (.unsupportedNodeType n.id)
  else
    match answer, n.kind with
    | .ok r, _ => .ok r
    | .error (.scriptSandbox _ text), .script _ => .error (.scriptSandbox n.id text)
    | .error _, _ => .ok .succeeded

theorem Node.allow_answers (n : Node) (answer : Except RunError NodeResult) :
    n.Answers (n.allow answer) := by
  unfold allow
  split
  case isTrue unknown => exact .unsupported unknown
  case isFalse known =>
    have known : n.isUnsupported = false := by simpa using known
    split
    · exact .result _ known
    · exact .sandbox _ ⟨_, ‹_›⟩
    · exact .result _ known

theorem Node.Answers.allow_eq {n : Node} {answer : Except RunError NodeResult}
    (h : n.Answers answer) : n.allow answer = answer := by
  cases h with
  | result r known => simp [allow, known]
  | unsupported unknown => simp [allow, unknown]
  | sandbox text script =>
    obtain ⟨s, kind⟩ := script
    simp [allow, isUnsupported, kind]

namespace Script

/-- The outside that answers what the script says. -/
def outside : Outside Script where
  canceled := fun s => (s.cancels.headD false, { s with cancels := s.cancels.tail })
  handle n _ := fun s =>
    (n.allow (s.answers.headD (.ok .succeeded)), { s with answers := s.answers.tail })
  emit _ := fun s => ((), s)
  publish _ := fun s => (s.deliveries.headD (.ok ()), { s with deliveries := s.deliveries.tail })
  honest n _ s := n.allow_answers (s.answers.headD (.ok .succeeded))

/-- An activity corresponds to a computation on scripts if, for whatever it ends with, some answers
make the computation end with the same and leave the answers behind them. -/
def correspondence (σ : Type) : Correspondence (Activity σ) (StateM Script) where
  Holds a x := a.Always fun v => ∀ rest, ∃ script, x.run script = (v, rest)
  pure v := fun rest => ⟨rest, rfl⟩
  bind := by
    intro _ _ a x f g ha hf
    refine Activity.always_bind ha fun u hu => ?_
    refine Activity.Always.mono (hf u) fun v hv rest => ?_
    -- The second computation takes the script that ends with the rest, the first one the script that
    -- ends with it.
    obtain ⟨middle, ends⟩ := hv rest
    obtain ⟨script, begins⟩ := hu middle
    refine ⟨script, ?_⟩
    show (g (x.run script).1).run (x.run script).2 = (v, rest)
    rw [begins, ends]

end Script

/-- **Runs in the engine are runs with scripts.** Whatever the other tasks of an engine do to the
shared state between the steps of a run, there are a schedule of cancels and a list of answers for
which a run has the same outcome. -/
theorem run_scripted [Regex.Library] [Web.Library] (d : Dispatcher) (registration : Nat)
    (policy : RevisitPolicy) (r : RunRequest) :
    (r.run (EngineState.services d registration) policy).Always fun outcome =>
      ∃ script, ((r.run Script.outside.toServices policy).run script).1 = outcome := by
  have corresponds : (EngineState.services d registration).Corresponds
      (Script.correspondence EngineState) Script.outside.toServices := by
    -- What the engine answers, in whatever state, is put before the rest of the script.
    refine ⟨?_, fun n context => ?_, fun event => ?_, fun u => ?_⟩
    · intro s rest
      exact ⟨{ rest with cancels := s.registry.isCanceled registration :: rest.cancels }, rfl⟩
    · refine Activity.Always.mono (Activity.always_onPart (d.execute_answers n context))
        fun answer honest rest => ?_
      refine ⟨{ rest with answers := answer :: rest.answers }, ?_⟩
      -- A script may say anything, but the dispatcher only gives answers that are allowed.
      show (n.allow answer, rest) = (answer, rest)
      rw [honest.allow_eq]
    · exact fun rest => ⟨rest, rfl⟩
    · intro s rest
      exact ⟨{ rest with deliveries := (EngineState.publish u s).1 :: rest.deliveries }, rfl⟩
  refine Activity.Always.mono (run_corresponds corresponds policy r) fun outcome h => ?_
  obtain ⟨script, run⟩ := h ⟨[], [], []⟩
  exact ⟨script, by rw [run]⟩

/-! ## Logs -/

/-- A node whose handler was asked, with the context it was given and its answer. -/
structure Visit where
  node : Node
  context : Fields
  answer : Except RunError NodeResult

/-- What a run asked and was answered. -/
structure Log where
  /-- Whether each check found the run to be asked to stop. -/
  checks : List Bool
  visits : List Visit

/-- Nothing asked yet. -/
def Log.empty : Log := ⟨[], []⟩

/-- Services that keep a log. -/
def Services.logged (services : Services (StateM σ)) : Services (StateM (σ × Log)) where
  canceled := fun (w, log) =>
    let (answer, w) := services.canceled.run w
    (answer, w, { log with checks := log.checks ++ [answer] })
  handle n context := fun (w, log) =>
    let (answer, w) := (services.handle n context).run w
    (answer, w, { log with visits := log.visits ++ [⟨n, context, answer⟩] })
  emit event := fun (w, log) => ((), ((services.emit event).run w).2, log)
  publish u := fun (w, log) =>
    let (answer, w) := (services.publish u).run w
    (answer, w, log)

/-- A log changes nothing: the run without it has the same outcome. -/
theorem run_logged [Regex.Library] (services : Services (StateM σ)) (policy : RevisitPolicy)
    (r : RunRequest) (w : σ) (log : Log) :
    ((r.run services.logged policy).run (w, log)).1 = ((r.run services policy).run w).1 := by
  have same := run_corresponds (R := recordErased σ Log) (s := services.logged) (t := services)
    ⟨fun _ _ => rfl, fun _ _ _ _ => rfl, fun _ _ _ => rfl, fun _ _ _ => rfl⟩ policy r w log
  exact congrArg Prod.fst same

end Automation
