import Automation.Proofs.Walk.Run

/-!
# What a run tells

A run leaves three records: the updates that it sends, the events that it tells and its outcome.
They are written at different places. `Account` keeps the first two, next to the log of what the run
asked, and `Told` says how the three fit together: every executed node has two events, a node whose
handler failed has one, and the last event and the last update say what the outcome says.

Whether updates arrive makes no difference (`run_sentTo`): with any sink a run has the account and
the outcome that it has with any other.
-/

namespace Automation

/-! ## Accounts -/

/-- What a run asked and was answered, what it told and what it sent. -/
structure Account where
  log : Log
  events : List Event
  updates : List StatusUpdate

namespace Account

/-- Nothing asked, told or sent. -/
def empty : Account := ⟨.empty, [], []⟩

/-- The account after a check. -/
def check (answer : Bool) (a : Account) : Account :=
  { a with log := a.log.check answer }

/-- The account after a handler answered. -/
def handle (v : Visit) (a : Account) : Account :=
  { a with log := a.log.visit v }

/-- The account after an event. -/
def tell (event : Event) (a : Account) : Account :=
  { a with events := a.events ++ [event] }

/-- The account after an update. -/
def send (u : StatusUpdate) (a : Account) : Account :=
  { a with updates := a.updates ++ [u] }

end Account

/-- Services that keep an account. -/
def Services.recounted (services : Services (StateM σ)) : Services (StateM (σ × Account)) where
  canceled := fun (w, a) =>
    let (answer, w) := services.canceled.run w
    (answer, w, a.check answer)
  handle n context := fun (w, a) =>
    let (answer, w) := (services.handle n context).run w
    (answer, w, a.handle ⟨n, context, answer⟩)
  emit event := fun (w, a) => ((), ((services.emit event).run w).2, a.tell event)
  publish u := fun (w, a) =>
    let (answer, w) := (services.publish u).run w
    (answer, w, a.send u)

/-- Whatever services do besides, they write every request into the account. -/
structure Services.Accounting (services : Services (StateM (σ × Account))) : Prop where
  canceled : ∀ w a, ∃ w' answer, services.canceled.run (w, a) = (answer, w', a.check answer)
  handle : ∀ n context w a, ∃ w' answer,
    (services.handle n context).run (w, a) = (answer, w', a.handle ⟨n, context, answer⟩)
  emit : ∀ event w a, ∃ w', (services.emit event).run (w, a) = ((), w', a.tell event)
  publish : ∀ u w a, ∃ w' answer, (services.publish u).run (w, a) = (answer, w', a.send u)

theorem Services.recounted_accounting (services : Services (StateM σ)) :
    services.recounted.Accounting where
  canceled _ _ := ⟨_, _, rfl⟩
  handle _ _ _ _ := ⟨_, _, rfl⟩
  emit _ _ _ := ⟨_, rfl⟩
  publish _ _ _ := ⟨_, _, rfl⟩

/-! ## What a walk tells -/

/-- A node that was not visited has its result at the end. -/
theorem Results.put_of_unvisited {id : String} {results : Results} (new : has id results = false)
    (result : NodeResult) : put id result results = results ++ [(id, result)] := by
  refine put_of_new ?_ result
  rw [← has_iff, new]
  exact Bool.false_ne_true

/-- A node that was executed, with its result. -/
abbrev Executed := Node × NodeResult

/-- The entry of an executed node among the results. -/
def Executed.entry (x : Executed) : String × NodeResult :=
  (x.1.id, x.2)

/-- What is told of a node when it starts. -/
def Node.started (n : Node) : EventKind :=
  .nodeStarted n.id n.kind.typeName

/-- What is told of an executed node: that it started, and how it finished. -/
def Executed.events (x : Executed) : List EventKind :=
  [x.1.started, .nodeFinished x.1.id x.2.success]

/-- Who was asked, and the answer. -/
def Visit.asked (v : Visit) : Node × Except RunError NodeResult :=
  (v.node, v.answer)

/-- What a walk adds to results and to an account: the executed nodes, and the node whose handler
failed if there is one. What was asked before stays. -/
structure Adds (r : RunRequest) (results : Results) (a : Account) (walked : Walked) (a' : Account)
    (executed : List Executed) (fatal : Option (Node × RunError)) : Prop where
  results : walked.results = results ++ executed.map Executed.entry
  asked : a'.log.visits.map Visit.asked = a.log.visits.map Visit.asked ++
    (executed.map (fun x => (x.1, .ok x.2)) ++ fatal.toList.map fun x => (x.1, .error x.2))
  events : a'.events = a.events ++
    (executed.flatMap Executed.events ++ fatal.toList.map fun x => x.1.started).map
      (Event.mk r.executionId)
  updates : a'.updates = a.updates
  failed : ∀ x, fatal = some x → walked.ending = .failed x.2
  checks : a.log.checks <+: a'.log.checks
  visits : a.log.visits <+: a'.log.visits

namespace Adds

variable {r : RunRequest} {results : Results} {a a' : Account} {walked : Walked}
  {executed : List Executed} {fatal : Option (Node × RunError)}

/-- A walk that stops at once. -/
theorem stop (r : RunRequest) (ending : Ending) (results : Results) (a : Account) :
    Adds r results a ⟨ending, results⟩ a [] none where
  results := by simp
  asked := by simp
  events := by simp
  updates := rfl
  failed _ h := by cases h
  checks := List.prefix_rfl
  visits := List.prefix_rfl

/-- A check adds nothing. -/
theorem check {answer : Bool} (h : Adds r results (a.check answer) walked a' executed fatal) :
    Adds r results a walked a' executed fatal :=
  ⟨h.results, h.asked, h.events, h.updates, h.failed, (List.prefix_append _ _).trans h.checks,
    h.visits⟩

/-- A node whose handler fails ends the walk. -/
theorem fail (n : Node) (context : Fields) (e : RunError) :
    Adds r results a ⟨.failed e, results⟩ ((a.tell ⟨r.executionId, n.started⟩).handle
      ⟨n, context, .error e⟩) [] (some (n, e)) where
  results := by simp
  asked := by simp [Account.handle, Account.tell, Visit.asked]
  events := by simp [Account.handle, Account.tell]
  updates := rfl
  failed _ h := by cases h; rfl
  checks := List.prefix_rfl
  visits := List.prefix_append _ _

/-- An executed node comes before what the walk adds further. -/
theorem execute (n : Node) (context : Fields) (result : NodeResult)
    (h : Adds r (results ++ [(n.id, result)])
      (((a.tell ⟨r.executionId, n.started⟩).handle ⟨n, context, .ok result⟩).tell
        ⟨r.executionId, .nodeFinished n.id result.success⟩) walked a' executed fatal) :
    Adds r results a walked a' ((n, result) :: executed) fatal where
  results := by simp [h.results, Executed.entry]
  asked := by simp [h.asked, Account.handle, Account.tell, Visit.asked]
  events := by simp [h.events, Account.handle, Account.tell, Executed.events]
  updates := h.updates
  failed := h.failed
  checks := h.checks
  visits := (List.prefix_append _ _).trans h.visits

end Adds

section

variable {services : Services (StateM (σ × Account))} (accounting : services.Accounting)
  (policy : RevisitPolicy) {r : RunRequest}
include accounting

/-- What coming to a node makes of the account. -/
theorem arrive_accounted (n : Node) (results : Results)
    (goOn : Unit → StateM (σ × Account) Walked) (w : σ) (a : Account) :
    ∃ (w' : σ) (seen : Bool), services.canceled.run (w, a) = (seen, w', a.check seen) ∧
      (arrive services policy n results goOn).run (w, a) =
        if seen then (⟨.canceled, results⟩, w', a.check seen)
        else if Results.has n.id results then (⟨policy.ending n.id, results⟩, w', a.check seen)
        else (goOn ()).run (w', a.check seen) := by
  obtain ⟨w', seen, run⟩ := accounting.canceled w a
  refine ⟨w', seen, run, ?_⟩
  unfold arrive
  rw [run_andThen, run]
  split
  · rfl
  · split <;> rfl

/-- What a visit makes of the account. -/
theorem visit_accounted (n : Node) (results : Results) (w : σ) (a : Account) :
    ∃ (w' : σ) (answer : Except RunError NodeResult), (visit services r n results).run (w, a) =
      (answer.map fun result => Results.put n.id result results, w',
        match answer with
        | .ok result => ((a.tell ⟨r.executionId, n.started⟩).handle
            ⟨n, Results.context r.fields results, answer⟩).tell
              ⟨r.executionId, .nodeFinished n.id result.success⟩
        | .error _ => (a.tell ⟨r.executionId, n.started⟩).handle
            ⟨n, Results.context r.fields results, answer⟩) := by
  obtain ⟨w₁, begun⟩ := accounting.emit ⟨r.executionId, n.started⟩ w a
  obtain ⟨w₂, answer, handled⟩ := accounting.handle n (Results.context r.fields results) w₁
    (a.tell ⟨r.executionId, n.started⟩)
  have first : (services.emit ⟨r.executionId, .nodeStarted n.id n.kind.typeName⟩).run (w, a) =
      ((), w₁, a.tell ⟨r.executionId, n.started⟩) := begun
  unfold visit
  rw [run_andThen, first, run_andThen, handled]
  cases answer with
  | error e => exact ⟨w₂, .error e, rfl⟩
  | ok result =>
    obtain ⟨w₃, finished⟩ := accounting.emit ⟨r.executionId, .nodeFinished n.id result.success⟩ w₂
      ((a.tell ⟨r.executionId, n.started⟩).handle
        ⟨n, Results.context r.fields results, .ok result⟩)
    refine ⟨w₃, .ok result, ?_⟩
    dsimp only
    rw [run_andThen, finished]
    rfl

/-- Coming to a node adds a check and what going on adds. -/
theorem arrive_adds {n : Node} {results : Results} {goOn : Unit → StateM (σ × Account) Walked}
    (on : Results.has n.id results = false → ∀ w a, ∃ executed fatal,
      Adds r results a ((goOn ()).run (w, a)).1 ((goOn ()).run (w, a)).2.2 executed fatal)
    (w : σ) (a : Account) : ∃ seen executed fatal,
      Adds r results (a.check seen) ((arrive services policy n results goOn).run (w, a)).1
        ((arrive services policy n results goOn).run (w, a)).2.2 executed fatal := by
  obtain ⟨w', seen, _, run⟩ := arrive_accounted accounting policy n results goOn w a
  rw [run]
  refine ⟨seen, ?_⟩
  split
  · exact ⟨_, _, .stop r _ _ _⟩
  · split
    · exact ⟨_, _, .stop r _ _ _⟩
    next new => exact on (by simpa using new) w' (a.check seen)

variable [Regex.Library]

/-- **A walk tells what it does.** By induction on the room that is left, one case for each exit of
the loop. -/
theorem walkFrom_adds (room : Nat) (n : Node) (results : Results) (w : σ) (a : Account) :
    ∃ seen executed fatal,
      Adds r results (a.check seen) ((walkFrom services policy r room n results).run (w, a)).1
        ((walkFrom services policy r room n results).run (w, a)).2.2 executed fatal := by
  induction room generalizing n results w a with
  | zero => exact arrive_adds accounting policy (fun _ w a => ⟨_, _, .stop r _ _ _⟩) w a
  | succ room ih =>
    refine arrive_adds accounting policy (fun new w a => ?_) w a
    obtain ⟨w', answer, run⟩ := visit_accounted accounting (r := r) n results w a
    rw [run_andThen, run]
    cases answer with
    | error e => exact ⟨_, _, .fail n _ e⟩
    | ok result =>
      simp only [Except.map, Results.put_of_unvisited new]
      split
      · exact ⟨_, _, .execute n _ result (.stop r _ _ _)⟩
      · split
        · exact ⟨_, _, .execute n _ result (.stop r _ _ _)⟩
        next next _ =>
          obtain ⟨seen, executed, fatal, h⟩ := ih next (results ++ [(n.id, result)]) w' _
          exact ⟨_, _, .execute n _ result h.check⟩

/-- What a whole walk tells. -/
theorem walk_adds (w : σ) (a : Account) :
    ∃ executed fatal, Adds r [] a ((walk services policy r).run (w, a)).1
      ((walk services policy r).run (w, a)).2.2 executed fatal := by
  unfold walk
  split
  · exact ⟨_, _, .stop r _ _ _⟩
  · obtain ⟨seen, executed, fatal, h⟩ := walkFrom_adds accounting policy r.nodes.length _ [] w a
    exact ⟨executed, fatal, h.check⟩

end

/-! ## What a run tells -/

/-- The last event of a run with an outcome. -/
inductive Outcome.Closes (o : Outcome) : EventKind → Prop where
  | completed (status : o.status = .completed) (error : o.error = none) :
    Closes o (.runCompleted o.results.length)
  | canceled (status : o.status = .canceled) (error : o.error = none) : Closes o .runCanceled
  | failed {e} (status : o.status = .failed) (error : o.error = some e) : Closes o (.runFailed e)

/-- **The three records of a run agree.** Two updates were sent: that the run is running, and at
last the status, the results and the error of the outcome. Between the first event and the last one
each entry of the results has two events, in the order of the results, and the node whose handler
failed one. There is such a node if and only if the last answer of a handler was an error. -/
structure Told (r : RunRequest) (o : Outcome) (a : Account) (executed : List Executed)
    (fatal : Option (Node × RunError)) : Prop where
  ids : o.executionId = r.executionId ∧ o.workflowId = r.workflowId
  results : o.results = executed.map Executed.entry
  asked : a.log.visits.map Visit.asked =
    executed.map (fun x => (x.1, .ok x.2)) ++ fatal.toList.map fun x => (x.1, .error x.2)
  updates : a.updates =
    [.started r.executionId, .ended r.executionId o.status o.results o.error]
  terminal : o.status.isTerminal = true
  events : ∃ last, o.Closes last ∧ a.events =
    (.runStarted r.workflowId :: (executed.flatMap Executed.events ++
      (fatal.toList.map fun x => x.1.started) ++ [last])).map (Event.mk r.executionId)
  failed : ∀ x, fatal = some x → o.status = .failed ∧ o.error = some x.2.message

/-- The last event of a run closes its outcome. -/
theorem RunRequest.outcome_closes (r : RunRequest) (walked : Walked) :
    (r.outcome walked).Closes (walked.ending.event walked.results.length) := by
  obtain ⟨ending, results⟩ := walked
  cases ending with
  | completed => exact .completed rfl rfl
  | canceled => exact .canceled rfl rfl
  | failed e => exact .failed rfl rfl

/-- An outcome that an event closes is terminal. -/
theorem Outcome.Closes.terminal {o : Outcome} {last : EventKind} (h : o.Closes last) :
    o.status.isTerminal = true := by
  cases h <;> simp [*, Status.isTerminal]

namespace RunRequest

/-- The account of a run that is about to walk. -/
def opened (r : RunRequest) : Account :=
  (Account.empty.send (.started r.executionId)).tell ⟨r.executionId, .runStarted r.workflowId⟩

/-- The account of a run after its walk, from the account that the walk left. -/
def closed (r : RunRequest) (walked : Walked) (a : Account) : Account :=
  (a.send (.ended r.executionId walked.ending.status walked.results walked.ending.error?)).tell
    ⟨r.executionId, walked.ending.event walked.results.length⟩

end RunRequest

variable [Regex.Library]

/-- A run is a walk with reports around it, which go into the account. -/
theorem run_around {services : Services (StateM (σ × Account))} (accounting : services.Accounting)
    (policy : RevisitPolicy) (r : RunRequest) (w : σ) :
    ∃ w₁ w₂, let walked := (walk services policy r).run (w₁, r.opened)
      (r.run services policy).run (w, .empty) =
        (r.outcome walked.1, w₂, r.closed walked.1 walked.2.2) := by
  obtain ⟨w₀, _, sent⟩ := accounting.publish (.started r.executionId) w .empty
  obtain ⟨w₁, told⟩ : ∃ w₁, (services.emit ⟨r.executionId, .runStarted r.workflowId⟩).run
      (w₀, Account.empty.send (.started r.executionId)) = ((), w₁, r.opened) :=
    accounting.emit _ _ _
  refine ⟨w₁, ?_⟩
  unfold RunRequest.run
  rw [run_andThen, sent, run_andThen, told, run_andThen]
  generalize (walk services policy r).run (w₁, r.opened) = walked
  obtain ⟨walked, w₃, a⟩ := walked
  obtain ⟨w₄, _, sent'⟩ := accounting.publish
    (.ended r.executionId walked.ending.status walked.results walked.ending.error?) w₃ a
  obtain ⟨w₅, told'⟩ := accounting.emit
    ⟨r.executionId, walked.ending.event walked.results.length⟩ w₄
    (a.send (.ended r.executionId walked.ending.status walked.results walked.ending.error?))
  refine ⟨w₅, ?_⟩
  dsimp only
  rw [run_andThen, sent', run_andThen, told']
  rfl

/-- **A run tells what it does**, with any services that keep an account. -/
theorem run_accounted {services : Services (StateM (σ × Account))}
    (accounting : services.Accounting)
    (policy : RevisitPolicy) (r : RunRequest) (w : σ) :
    ∃ executed fatal, Told r ((r.run services policy).run (w, .empty)).1
      ((r.run services policy).run (w, .empty)).2.2 executed fatal := by
  obtain ⟨w₁, w₂, run⟩ := run_around accounting policy r w
  obtain ⟨executed, fatal, adds⟩ := walk_adds accounting policy (r := r) w₁ r.opened
  rw [run]
  generalize (walk services policy r).run (w₁, r.opened) = walked at adds
  refine ⟨executed, fatal, ?_⟩
  exact {
    ids := ⟨rfl, rfl⟩
    results := adds.results
    asked := adds.asked
    updates := by
      show walked.2.2.updates ++ _ = _
      rw [adds.updates]
      rfl
    terminal := (r.outcome_closes walked.1).terminal
    events := by
      refine ⟨_, r.outcome_closes walked.1, ?_⟩
      show walked.2.2.events ++ _ = _
      rw [adds.events]
      simp [RunRequest.opened, Account.empty, Account.send, Account.tell]
    failed := by
      intro x there
      show walked.1.ending.status = _ ∧ walked.1.ending.error? = _
      rw [adds.failed x there]
      exact ⟨rfl, rfl⟩ }

/-! ## Updates that do not arrive -/

section

variable {m : Type → Type} [Monad m]

/-- The services, with every update taken to arrive. -/
def Services.trusting (services : Services m) : Services m :=
  { services with
    publish := fun u => do
      let _ ← services.publish u
      pure (.ok ()) }

theorem walkFrom_trusting (services : Services m) (policy : RevisitPolicy) (r : RunRequest)
    (room : Nat) (n : Node) (results : Results) :
    walkFrom services.trusting policy r room n results =
      walkFrom services policy r room n results := by
  induction room generalizing n results with
  | zero => rfl
  | succ room ih =>
    simp only [walkFrom, ih]
    rfl

theorem walk_trusting (services : Services m) (policy : RevisitPolicy) (r : RunRequest) :
    walk services.trusting policy r = walk services policy r := by
  unfold walk
  split
  · rfl
  · exact walkFrom_trusting services policy r _ _ _

/-- Whether the updates of a run arrive makes no difference to it. -/
theorem run_trusting [LawfulMonad m] (services : Services m) (policy : RevisitPolicy)
    (r : RunRequest) : r.run services.trusting policy = r.run services policy := by
  simp only [RunRequest.run, walk_trusting]
  simp [Services.trusting]

end

/-- Services that send the updates to a sink with a state of its own. -/
def Services.sentTo (services : Services (StateM σ))
    (sink : StatusUpdate → StateM τ (Except RunError Unit)) : Services (StateM (σ × τ)) where
  canceled := fun (w, t) =>
    let (answer, w) := services.canceled.run w
    (answer, w, t)
  handle n context := fun (w, t) =>
    let (answer, w) := (services.handle n context).run w
    (answer, w, t)
  emit event := fun (w, t) => ((), ((services.emit event).run w).2, t)
  publish u := fun (w, t) =>
    let (answer, t) := (sink u).run t
    (answer, w, t)

/-- A sink to which every update arrives. -/
def reliable (_ : StatusUpdate) : StateM Unit (Except RunError Unit) :=
  pure (.ok ())

/-- A computation that sends to one sink corresponds to one that sends to another, if it answers the
same and makes the same of the other state and of the account. -/
def sinkErased (σ τ υ : Type) :
    Correspondence (StateM ((σ × τ) × Account)) (StateM ((σ × υ) × Account)) where
  Holds x y := ∀ w t v a, ∃ answer w' t' v' a',
    x.run ((w, t), a) = (answer, (w', t'), a') ∧ y.run ((w, v), a) = (answer, (w', v'), a')
  pure value := fun w t v a => ⟨value, w, t, v, a, rfl, rfl⟩
  bind := by
    intro _ _ x y f g hx hf w t v a
    obtain ⟨answer, w', t', v', a', first, first'⟩ := hx w t v a
    simp only [run_andThen, first, first']
    exact hf answer w' t' v' a'

/-- **The sink makes no difference.** Whatever two sinks answer, a run has one outcome and one
account. -/
theorem run_sentTo (services : Services (StateM σ)) (policy : RevisitPolicy) (r : RunRequest)
    (sink : StatusUpdate → StateM τ (Except RunError Unit))
    (sink' : StatusUpdate → StateM υ (Except RunError Unit)) :
    (sinkErased σ τ υ).Holds (r.run (services.sentTo sink).recounted policy)
      (r.run (services.sentTo sink').recounted policy) := by
  rw [← run_trusting, ← run_trusting (services.sentTo sink').recounted]
  exact run_corresponds
    ⟨fun _ _ _ _ => ⟨_, _, _, _, _, rfl, rfl⟩, fun _ _ _ _ _ _ => ⟨_, _, _, _, _, rfl, rfl⟩,
      fun _ _ _ _ _ => ⟨_, _, _, _, _, rfl, rfl⟩, fun _ _ _ _ _ => ⟨_, _, _, _, _, rfl, rfl⟩⟩
    policy r

/-- An account changes nothing: the run without it has the same outcome. -/
theorem run_recounted (services : Services (StateM σ)) (policy : RevisitPolicy) (r : RunRequest)
    (w : σ) (a : Account) :
    ((r.run services.recounted policy).run (w, a)).1 = ((r.run services policy).run w).1 := by
  have same := run_corresponds (R := recordErased σ Account) (s := services.recounted)
    (t := services)
    ⟨fun _ _ => rfl, fun _ _ _ _ => rfl, fun _ _ _ => rfl, fun _ _ _ => rfl⟩ policy r w a
  exact congrArg Prod.fst same

/-- **A run tells what it does, and no sink changes it.** For every request, every policy and
whatever answers the checks and the nodes, there are an outcome and an account that agree, and for
every sink, which may take an update or not each time, a run has this outcome and this account. -/
theorem run_told (services : Services (StateM σ)) (policy : RevisitPolicy) (r : RunRequest)
    (w : σ) :
    ∃ outcome account executed fatal, Told r outcome account executed fatal ∧
      ∀ (τ : Type) (sink : StatusUpdate → StateM τ (Except RunError Unit)) (t : τ),
        ((r.run (services.sentTo sink) policy).run (w, t)).1 = outcome ∧
        ∃ w', (r.run (services.sentTo sink).recounted policy).run ((w, t), .empty) =
          (outcome, w', account) := by
  obtain ⟨executed, fatal, told⟩ := run_accounted
    (services.sentTo reliable).recounted_accounting policy r (w, ())
  refine ⟨_, _, executed, fatal, told, fun τ sink t => ?_⟩
  obtain ⟨outcome, w', t', _, account, run, run'⟩ :=
    run_sentTo services policy r sink reliable w t () .empty
  rw [← run_recounted (services.sentTo sink) policy r (w, t) .empty, run, run']
  exact ⟨rfl, (w', t'), rfl⟩

end Automation
