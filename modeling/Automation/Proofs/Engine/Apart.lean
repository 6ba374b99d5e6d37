import Automation.Proofs.Engine.Reports
import Automation.Proofs.Engine.Schedule
import Automation.Regex.Reader
import Automation.Web.Standard

/-!
# Runs do not notice one another

What there is to know of an id is its `View`: outcomes, events, execution and report. It depends on
the schedule of the id alone, which is what is left of an interleaving when all moves are taken away
that concern other ids (`Runs.schedule`): when its run was started, canceled and forgotten between
the steps of its task. The answers to its nodes need not be part of that, if the dispatcher answers
them by itself (`Node.SelfContained`): then two interleavings in which the id has the same schedule
show the same view of it, and one of them may be its own run on an engine of its own (`runs_apart`).
-/

namespace Automation

open Registry (find?)

/-! ## Nodes that are answered by the dispatcher itself -/

/-- Whether a node needs neither the browser nor the network. -/
def Node.SelfContained (n : Node) : Prop :=
  match n.kind with
  | .browserAction _ => False
  | .apiCall _ => False
  | _ => True

/-- Whether all nodes of a graph do. -/
def RunRequest.SelfContained (r : RunRequest) : Prop :=
  ∀ n ∈ r.nodes, n.SelfContained

/-- A node that is self-contained has one answer. -/
theorem Dispatcher.exists_answer [Regex.Library] [Web.Library] (d : Dispatcher) {n : Node}
    (h : n.SelfContained) (context : Fields) :
    ∃ answer, (d.execute n context).Always fun a => a = answer := by
  unfold Node.SelfContained at h
  unfold execute
  cases kind : n.kind with
  | browserAction a => rw [kind] at h; exact h.elim
  | apiCall c => rw [kind] at h; exact h.elim
  | delay milliseconds =>
    exact ⟨_, Activity.always_bind (P := fun _ => True)
      (Activity.always_of_forall (fun _ => trivial) _) fun _ _ => rfl⟩
  | _ => exact ⟨_, rfl⟩

theorem Dispatcher.answer_unique [Regex.Library] [Web.Library] {d : Dispatcher} {n : Node}
    (h : n.SelfContained) {context : Fields} {a b : Except RunError NodeResult}
    (ha : (d.execute n context).Yields a) (hb : (d.execute n context).Yields b) : a = b := by
  obtain ⟨answer, always⟩ := d.exists_answer h context
  exact (always.yields ha).trans (always.yields hb).symm

/-! ## Turns without answers -/

/-- A turn but for the answer that comes with it. -/
def Turn.unanswered : Turn → Turn
  | .step _ => .step (.ok .succeeded)
  | turn => turn

namespace Lone

variable {d : Dispatcher} {policy : RevisitPolicy} {l : Lone}

/-- Whether the task, if there is one, belongs to a graph that is self-contained. -/
def SelfContained (l : Lone) : Prop :=
  ∀ r rest, l.task = some (r, rest) → r.SelfContained ∧ rest.Of r

theorem SelfContained.congr (h : l.SelfContained) {l' : Lone} (same : l'.task = l.task) :
    l'.SelfContained :=
  fun r rest task => h r rest (same ▸ task)

/-- What is left of a task belongs to the same graph. -/
theorem SelfContained.serve {r : RunRequest} {rest : Course Outcome} (contained : r.SelfContained)
    (of : rest.Of r) (l : Lone) (answer : Except RunError NodeResult) :
    (l.serve r answer rest).SelfContained := by
  intro r' rest' left
  cases of with
  | done o => cases left
  | check of =>
    cases left
    exact ⟨contained, of _⟩
  | handle _ of =>
    cases left
    exact ⟨contained, of _⟩
  | emit _ of =>
    cases left
    exact ⟨contained, of⟩
  | publish of =>
    cases left
    exact ⟨contained, of _⟩

variable [Regex.Library]

theorem SelfContained.take (h : l.SelfContained) {turn : Turn}
    (start : ∀ r, turn = .start r → r.SelfContained) : (l.take policy turn).SelfContained := by
  cases turn with
  | start r =>
    unfold Lone.take
    dsimp only
    split
    · exact h
    · intro r' rest same
      cases same
      exact ⟨start r rfl, Course.of_run policy r⟩
  | cancel =>
    refine h.congr ?_
    unfold Lone.take
    dsimp only
    split <;> rfl
  | forget =>
    refine h.congr ?_
    unfold Lone.take
    dsimp only
    split <;> rfl
  | step answer =>
    unfold Lone.take
    dsimp only
    split
    next r rest task =>
      obtain ⟨contained, of⟩ := h r rest task
      exact .serve contained of l answer
    next => exact h

variable [Web.Library]

/-- A request of a self-contained task has one answer. -/
theorem step_congr (h : l.SelfContained) {answer answer' : Except RunError NodeResult}
    (answered : l.Answered d (.step answer)) (answered' : l.Answered d (.step answer')) :
    l.take policy (.step answer) = l.take policy (.step answer') := by
  unfold take
  dsimp only
  split
  next r rest task =>
    cases rest with
    | handle n context next =>
      obtain ⟨contained, of⟩ := h r _ task
      cases of with
      | handle there _ =>
        have same := Dispatcher.answer_unique (contained n there) (answered r n context next task)
          (answered' r n context next task)
        rw [same]
    | done o => rfl
    | check next => rfl
    | emit event next => rfl
    | publish u next => rfl
  next => rfl

/-- Turns that differ in their answers at most change the same and tell the same. -/
theorem take_congr (policy : RevisitPolicy) (h : l.SelfContained) {turn turn' : Turn}
    (same : turn.unanswered = turn'.unanswered) (answered : l.Answered d turn)
    (answered' : l.Answered d turn') :
    l.take policy turn = l.take policy turn' ∧ l.tells turn = l.tells turn' := by
  cases turn with
  | step answer =>
    cases turn' with
    | step answer' => exact ⟨step_congr h answered answered', rfl⟩
    | start r => cases same
    | cancel => cases same
    | forget => cases same
  | start r => cases turn' <;> cases same; exact ⟨rfl, rfl⟩
  | cancel => cases turn' <;> cases same; exact ⟨rfl, rfl⟩
  | forget => cases turn' <;> cases same; exact ⟨rfl, rfl⟩

/-- Turns in a row that differ in their answers at most change the same and tell the same. -/
theorem takes_congr (h : l.SelfContained) {turns turns' : List Turn}
    (same : turns.map Turn.unanswered = turns'.map Turn.unanswered)
    (starts : ∀ r, .start r ∈ turns → r.SelfContained) (honest : Honest d policy turns l)
    (honest' : Honest d policy turns' l) :
    l.takes policy turns = l.takes policy turns' ∧ told policy turns l = told policy turns' l := by
  induction turns generalizing turns' l with
  | nil =>
    cases List.map_eq_nil_iff.mp same.symm
    exact ⟨rfl, rfl⟩
  | cons turn turns ih =>
    cases turns' with
    | nil => cases same
    | cons turn' turns' =>
      obtain ⟨first, others⟩ := List.cons_eq_cons.mp same
      obtain ⟨left, events⟩ := take_congr policy h first honest.1 honest'.1
      have start (r : RunRequest) (here : turn = .start r) : r.SelfContained :=
        starts r (here ▸ List.mem_cons_self)
      obtain ⟨lefts, tolds⟩ := ih (h.take start) others
        (fun r there => starts r (List.mem_cons_of_mem _ there)) honest.2 (left ▸ honest'.2)
      constructor
      · show (l.take policy turn).takes policy turns = (l.take policy turn').takes policy turns'
        rw [← left, lefts]
      · rw [told, told, events, tolds, left]

end Lone

/-! ## Views -/

/-- What there is to know of an id: what its runs came to, the events that they told, its execution,
and the report on it. -/
structure View where
  outcomes : List Outcome
  events : List EventKind
  execution : Option Execution
  report : Except RunError StatusReport

/-- The view of an id, from a registry and the events that were sent. -/
def Registry.view (id : String) (sent : List Event) (g : Registry) : View :=
  ⟨g.outcomesOf id, eventsOf id sent, g.execution? id, g.report id⟩

/-- The view of an id after some moves. -/
def Runs.view [Regex.Library] (policy : RevisitPolicy) (id : String) (ms : List Move) : View :=
  (Runs.idle.moves policy ms).registry.view id (Runs.told policy ms .idle)

/-- The view of an id in an engine. -/
def Engine.view (id : String) (e : Engine) : View :=
  e.registry.view id e.state.channel.sent

namespace Runs

variable {d : Dispatcher} {policy : RevisitPolicy} {s s' : Runs} {id : String}

/-- The view of an id is known from what is held for it and from its events. -/
theorem Kept.view_congr (h : s.Kept) (h' : s'.Kept) (same : s'.lone id = s.lone id)
    {sent sent' : List Event} (events : eventsOf id sent' = eventsOf id sent) :
    s'.registry.view id sent' = s.registry.view id sent := by
  have execution : s'.registry.execution? id = s.registry.execution? id :=
    congrArg Lone.execution same
  have outcomes : s'.registry.outcomesOf id = s.registry.outcomesOf id :=
    congrArg Lone.outcomes same
  have report : s'.registry.report id = s.registry.report id := by
    have outcome := congrArg Lone.outcome same
    unfold Registry.execution? at execution
    unfold lone at outcome
    dsimp only at outcome
    cases known : find? id s.registry.slots with
    | none =>
      rw [known, Option.map_none, Option.map_eq_none_iff] at execution
      rw [(Registry.untracked known).1, (Registry.untracked execution).1]
    | some slot =>
      rw [known] at execution outcome
      obtain ⟨slot', known', same'⟩ := Option.map_eq_some_iff.mp execution
      rw [known'] at outcome
      have received : s'.registry.received? slot'.registration =
          s.registry.received? slot.registration := outcome
      rw [h.report known, h'.report known', received]
      cases s.registry.received? slot.registration with
      | none => simp only [Slot.report, same']
      | some o => rfl
  rw [Registry.view, Registry.view, execution, outcomes, report, events]

variable [Regex.Library]

/-- Whether an id has the same schedule in two interleavings, but for the answers to its nodes. -/
def SameSchedule (policy : RevisitPolicy) (id : String) (ms ms' : List Move) : Prop :=
  (schedule policy id ms .idle).map Turn.unanswered =
    (schedule policy id ms' .idle).map Turn.unanswered

/-- The view of an id after moves that do as much for it as others do. -/
theorem view_eq {ms ms' : List Move}
    (takes : (idle.lone id).takes policy (schedule policy id ms' .idle) =
      (idle.lone id).takes policy (schedule policy id ms .idle))
    (told : Lone.told policy (schedule policy id ms' .idle) (idle.lone id) =
      Lone.told policy (schedule policy id ms .idle) (idle.lone id)) :
    view policy id ms' = view policy id ms := by
  obtain ⟨left, events⟩ := lone_moves kept_idle fit_idle policy id ms
  obtain ⟨left', events'⟩ := lone_moves kept_idle fit_idle policy id ms'
  refine (kept_idle.moves policy ms).1.view_congr (kept_idle.moves policy ms').1 ?_ ?_
  · rw [left, left', takes]
  · rw [events, events', told]

variable [Web.Library]

/-- What an id shows in an interleaving, and in any other in which it has the same schedule. -/
structure Apart (d : Dispatcher) (policy : RevisitPolicy) (ms : List Move) (id : String) :
    Prop where
  /-- It shows the same when it is the only one that is called for, with the same schedule. -/
  alone : ∃ alone : List Move, (∀ m ∈ alone, m.For id) ∧ Honest d policy alone .idle ∧
    schedule policy id alone .idle = schedule policy id ms .idle ∧
    view policy id alone = view policy id ms
  /-- If its graphs are self-contained, then it shows the same with whatever others it runs. -/
  same : (∀ r, .start r ∈ ms → r.executionId = id → r.SelfContained) → ∀ ms' : List Move,
    Honest d policy ms' .idle → SameSchedule policy id ms' ms →
    view policy id ms' = view policy id ms

/-- An id shows so much in all honest interleavings. -/
theorem Honest.apart {ms : List Move} (honest : Honest d policy ms .idle) (id : String) :
    Apart d policy ms id where
  alone := by
    obtain ⟨alone, all, honest', turns⟩ :=
      exists_alone kept_idle fit_idle kept_idle fit_idle (rfl : idle.lone id = _) honest
    exact ⟨alone, all, honest', turns, view_eq (by rw [turns]) (by rw [turns])⟩
  same contained ms' honest' turns := by
    have idles : Lone.SelfContained (idle.lone id) := fun r rest task => by cases task
    have starts (r : RunRequest) (there : .start r ∈ schedule policy id ms .idle) :
        r.SelfContained := by
      obtain ⟨there, own⟩ := start_of_schedule there
      exact contained r there own
    obtain ⟨takes, told⟩ := Lone.takes_congr idles turns.symm starts
      (honest.turns kept_idle fit_idle) (honest'.turns kept_idle fit_idle)
    exact view_eq takes.symm told.symm

end Runs

/-- **Runs do not notice one another.** However calls and steps of tasks interleave, what an id shows
is what it shows alone with the same schedule, and if its nodes need neither the browser nor the
network, then it is what the id shows in every interleaving with that schedule. An engine is one
interleaving of its runs, whatever happens to it. -/
theorem runs_apart [Regex.Library] [Web.Library] (d : Dispatcher) (policy : RevisitPolicy) :
    (∀ ms, Runs.Honest d policy ms .idle → ∀ id, Runs.Apart d policy ms id) ∧
    ∀ (network : Web.Network) (c : Config) (session : Session) (e : Engine)
      (happens : List Engine.Act),
      Engine.open network c session = .opened e → c.engine.revisitPolicy = policy →
      e.dispatcher = d →
      ∃ ms, Runs.Honest d policy ms .idle ∧
        ms.filter Move.isCall = happens.filterMap Engine.Act.call? ∧
        ∀ id, (e.acts happens).view id = Runs.view policy id ms := by
  refine ⟨fun ms honest => honest.apart, ?_⟩
  rintro network c session e happens opened rfl rfl
  obtain ⟨ms, goes⟩ := (Engine.interleaves_open opened).acts happens
  refine ⟨ms, goes.plays.honest, goes.plays.calls, fun id => ?_⟩
  have sent := goes.plays.sent
  rw [Engine.sent_open opened, List.nil_append] at sent
  have registry : (e.acts happens).registry = (Runs.idle.moves c.engine.revisitPolicy ms).registry :=
    goes.interleaves.scheduler.registry
  rw [Engine.view, Runs.view, registry, sent]

/-- Two runs, of which one is canceled and the other one forgotten. -/
theorem runs_apart_two :
    let r (id : String) : RunRequest := ⟨"w", id, [⟨"a", "", none, none, .start⟩], [], none⟩
    let happens : List Engine.Act :=
      [.start (r "e"), .start (r "f"), .cancel "f", .settle, .forget "e"]
    ∃ e, Engine.open (fun _ => none) Config.default (Session.start .fresh) = .opened e ∧
      ∃ ms, ms.filter Move.isCall =
          [.start (r "e"), .start (r "f"), .cancel "f", .forget "e"] ∧
        ∀ id, (e.acts happens).view id = Runs.view .fail id ms ∧
          Runs.Apart e.dispatcher .fail ms id := by
  intro r happens
  refine ⟨_, rfl, ?_⟩
  obtain ⟨ms, honest, calls, views⟩ := (runs_apart _ .fail).2 (fun _ => none) Config.default
    (Session.start .fresh) _ happens rfl rfl rfl
  exact ⟨ms, calls, fun id => ⟨views id, (runs_apart _ .fail).1 ms honest id⟩⟩

end Automation
