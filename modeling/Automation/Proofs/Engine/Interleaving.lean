import Automation.Execution.Engine
import Automation.Proofs.Engine.Telling
import Automation.Proofs.Walk.Outside

/-!
# An engine interleaves its runs

The tasks of an engine are activities, which its scheduler lets go on from pause to pause. Every
registry that an engine comes to is one that clients and runs come to by some moves
(`Engine.Reaches.interleaved`). The calls of clients among these are those that the engine gets, and
the events that it sends on the way are those that the moves tell (`Engine.Interleaves.acts`): the
task of a run follows the course of that run, and whatever else the tasks do leaves the registry and
the channel alone.
-/

namespace Automation

namespace Activity

/-- Whether an activity leaves the registry and the channel alone. -/
def Aside : Activity EngineState α → Prop
  | done _ => True
  | read next => ∀ s, (next s).Aside
  | write change next =>
    (∀ s, (change s).registry = s.registry ∧ (change s).channel = s.channel) ∧ next.Aside
  | pause _ next => next.Aside

theorem aside_onSession (a : Activity Session α) :
    (a.onPart EngineState.session EngineState.withSession).Aside := by
  induction a with
  | done a => trivial
  | read next ih => exact fun s => ih s.session
  | write change next ih => exact ⟨fun _ => ⟨rfl, rfl⟩, ih⟩
  | pause reason next ih => exact ih

/-- What is left of an activity at its pause. -/
def Progress.rest? : Progress σ α → Option (Activity σ α)
  | finished _ => none
  | paused _ rest => some rest

/-- A turn of a task that leaves the registry and the channel alone. -/
theorem Aside.advance {a : Activity EngineState α} (h : a.Aside) (e : EngineState) :
    ((a.advance e).2.registry = e.registry ∧ (a.advance e).2.channel = e.channel) ∧
      ∀ rest, (a.advance e).1.rest? = some rest → rest.Aside := by
  induction a generalizing e with
  | done a => exact ⟨⟨rfl, rfl⟩, fun _ h => by cases h⟩
  | read next ih => exact ih e (h e) e
  | write change next ih =>
    obtain ⟨⟨registry, channel⟩, aside⟩ := ih h.2 (change e)
    obtain ⟨registry', channel'⟩ := h.1 e
    exact ⟨⟨registry.trans registry', channel.trans channel'⟩, aside⟩
  | pause reason next ih => exact ⟨⟨rfl, rfl⟩, fun _ same => Option.some.inj same ▸ h⟩

end Activity

namespace Scheduler

theorem shared_pause (reason : Pause) (i : Nat) (s : Scheduler σ) :
    (pause reason i s).shared = s.shared := by
  unfold pause
  split
  · rfl
  · rfl
  · split <;> rfl
  · split <;> rfl

/-- What a turn of a task does to what tasks share and to what is left of it. -/
theorem turn_there {s : Scheduler σ} {i : Nat} {a : Activity σ Unit}
    (there : s.tasks[i]? = some (some a)) :
    (s.turn i).shared = (a.advance s.shared).2 ∧
      (s.turn i).tasks = s.tasks.set i (a.advance s.shared).1.rest? := by
  rw [turn, there]
  dsimp only
  split
  next shared h => rw [h]; exact ⟨rfl, rfl⟩
  next reason rest shared h => rw [shared_pause, tasks_pause, h]; exact ⟨rfl, rfl⟩

end Scheduler

variable [Regex.Library] [Web.Library]

/-! ## Activities that follow a course -/

/-- An activity of a registration follows a course: it asks for the same and tells the same events.
While a node is handled it leaves the registry and the channel alone, and the answer is one that the
dispatcher may give. -/
inductive Follows (d : Dispatcher) (n : Nat) : Activity EngineState α → Course α → Prop where
  | done (a : α) : Follows d n (.done a) (.done a)
  | check {next : Bool → Activity EngineState α} {next' : Bool → Course α}
    (h : ∀ b, Follows d n (next b) (next' b)) :
    Follows d n (.read fun s => next (s.registry.isCanceled n)) (.check next')
  | emit {change : EngineState → EngineState} {next : Activity EngineState α} {event : Event}
    {next' : Course α} (sends : ∀ s, (change s).registry = s.registry ∧
      (change s).channel.sent = s.channel.sent ++ [event]) (h : Follows d n next next') :
    Follows d n (.write change next) (.emit event next')
  | publish {u : StatusUpdate} {next : Except RunError Unit → Activity EngineState α}
    {next' : Except RunError Unit → Course α}
    (h : ∀ answer, Follows d n (next answer) (next' answer)) :
    Follows d n (.read fun s => .write (fun _ => (EngineState.publish u s).2)
      (next (EngineState.publish u s).1)) (.publish u next')
  | handled {a : Activity EngineState α} {node : Node} {context : Fields}
    {next : Except RunError NodeResult → Course α} (answer : Except RunError NodeResult)
    (yields : (d.execute node context).Yields answer) (h : Follows d n a (next answer)) :
    Follows d n a (.handle node context next)
  | read {next : EngineState → Activity EngineState α} {node : Node} {context : Fields}
    {next' : Except RunError NodeResult → Course α}
    (h : ∀ s, Follows d n (next s) (.handle node context next')) :
    Follows d n (.read next) (.handle node context next')
  | write {change : EngineState → EngineState} {next : Activity EngineState α} {node : Node}
    {context : Fields} {next' : Except RunError NodeResult → Course α}
    (aside : ∀ s, (change s).registry = s.registry ∧ (change s).channel = s.channel)
    (h : Follows d n next (.handle node context next')) :
    Follows d n (.write change next) (.handle node context next')
  | pause {reason : Pause} {next : Activity EngineState α} {node : Node} {context : Fields}
    {next' : Except RunError NodeResult → Course α}
    (h : Follows d n next (.handle node context next')) :
    Follows d n (.pause reason next) (.handle node context next')

theorem Follows.bind {d : Dispatcher} {n : Nat} {x : Activity EngineState α} {y : Course α}
    {f : α → Activity EngineState β} {g : α → Course β} (h : Follows d n x y)
    (hf : ∀ a, Follows d n (f a) (g a)) : Follows d n (x >>= f) (y >>= g) := by
  show Follows d n (x.bind f) (y.bind g)
  induction h with
  | done a => exact hf a
  | check _ ih => exact .check ih
  | emit sends _ ih => exact .emit sends ih
  | publish _ ih => exact .publish ih
  | handled answer yields _ ih => exact .handled answer yields ih
  | read _ ih => exact .read ih
  | write aside _ ih => exact .write aside ih
  | pause _ ih => exact .pause ih

/-- The correspondence of activities with the courses that they follow. -/
def followed (d : Dispatcher) (n : Nat) : Correspondence (Activity EngineState) Course where
  Holds := Follows d n
  pure := .done
  bind := .bind

/-- What handles a node follows the request to handle it. -/
theorem handling_follows {d : Dispatcher} {n : Nat} {node : Node} {context : Fields}
    (a : Activity Session (Except RunError NodeResult))
    (h : ∀ answer, a.Yields answer → (d.execute node context).Yields answer) :
    Follows d n (a.onPart EngineState.session EngineState.withSession)
      (.handle node context .done) := by
  induction a with
  | done answer => exact .handled answer (h answer (.done answer)) (.done answer)
  | read next ih => exact .read fun s => ih s.session fun answer yields => h answer (.read _ yields)
  | write change next ih =>
    exact .write (fun _ => ⟨rfl, rfl⟩) (ih fun answer yields => h answer (.write change yields))
  | pause reason next ih => exact .pause (ih fun answer yields => h answer (.pause reason yields))

/-- The services of a registered run ask for what is asked of them. -/
theorem services_follow (d : Dispatcher) (n : Nat) :
    (EngineState.services d n).Corresponds (followed d n) Course.services where
  canceled := .check .done
  handle node context := handling_follows (d.execute node context) fun _ yields => yields
  emit _ := .emit (fun _ => ⟨rfl, rfl⟩) (.done ())
  publish _ := .publish .done

/-- What the task of a run does when the run is over. -/
def recording (o : Outcome) : Activity EngineState Unit :=
  Activity.modify fun s => { s with registry := s.registry.finish o }

/-- An activity that is what is left of the task of a run. -/
def RunTask.DoneBy (d : Dispatcher) (t : RunTask) (a : Activity EngineState Unit) : Prop :=
  ∃ b, Follows d t.registration b t.rest ∧ a = b >>= recording

theorem doneBy_runTask (d : Dispatcher) (policy : RevisitPolicy) (n : Nat) (r : RunRequest) :
    RunTask.DoneBy d ⟨n, r, r.run Course.services policy⟩ (EngineState.runTask d policy n r) :=
  ⟨_, run_corresponds (services_follow d n) policy r, rfl⟩

/-! ## Turns of a task -/

/-- What a place of a scheduler has left to do is what the task of a run has left to do. -/
abbrev Alike (d : Dispatcher) : Option (Activity EngineState Unit) → Option RunTask → Prop :=
  Option.Rel fun a t => t.DoneBy d a

namespace Runs

variable {d : Dispatcher} {policy : RevisitPolicy} {i : Nat}

/-- Some steps of tasks change no more than one task and the registry: they leave the registry of a
state, and of the task what an activity has left to do at its pause. What they tell is what has been
sent since. -/
def Turned (d : Dispatcher) (policy : RevisitPolicy) (i : Nat) (s : Runs) (sent : List Event)
    (progress : Activity.Progress EngineState Unit) (e : EngineState) : Prop :=
  ∃ ms task, s.moves policy ms = ⟨e.registry, s.tasks.set i task⟩ ∧ Alike d progress.rest? task ∧
    Plays d policy [] ms s sent e.channel.sent

/-- A step of a task that handles no node is answered whatever it may be, and tells what its request
tells. -/
theorem step_there {s : Runs} {t : RunTask} (there : s.tasks[i]? = some (some t))
    (answer : Except RunError NodeResult) :
    s.tells (.task i answer) = t.rest.tells ∧
      ((∀ n context next, t.rest = .handle n context next → (d.execute n context).Yields answer) →
        s.Answered d (.task i answer)) := by
  refine ⟨by rw [tells, there], fun yields t' n context next there' rest => ?_⟩
  cases there.symm.trans there'
  exact yields n context next rest

/-- They may begin with any step of that task. -/
theorem Turned.after {s : Runs} {t : RunTask} (there : s.tasks[i]? = some (some t))
    {progress : Activity.Progress EngineState Unit} {e : EngineState} {registry : Registry}
    {task : Option RunTask} {sent sent' : List Event} (answer : Except RunError NodeResult)
    (yields : ∀ n context next, t.rest = .handle n context next →
      (d.execute n context).Yields answer)
    (moved : s.move policy (.task i answer) = ⟨registry, s.tasks.set i task⟩)
    (tells : sent' = sent ++ t.rest.tells)
    (h : Turned d policy i ⟨registry, s.tasks.set i task⟩ sent' progress e) :
    Turned d policy i s sent progress e := by
  obtain ⟨ms, task', rest, alike, plays⟩ := h
  obtain ⟨told', answered⟩ := step_there (d := d) there answer
  refine ⟨.task i answer :: ms, task', ?_, alike, ⟨answered yields, ?_⟩, ?_, plays.calls⟩
  · show (s.move policy (.task i answer)).moves policy ms = _
    rw [moved, rest, List.set_set]
  · rw [moved]
    exact plays.honest
  · rw [told, moved, told', ← List.append_assoc, ← tells]
    exact plays.sent

/-- A turn of the task of a run is some of its moves. -/
theorem turned_of_advance (policy : RevisitPolicy) {n : Nat} {r : RunRequest}
    {b : Activity EngineState Outcome} {c : Course Outcome} (follows : Follows d n b c) {s : Runs}
    (there : s.tasks[i]? = some (some ⟨n, r, c⟩)) {e : EngineState}
    (same : e.registry = s.registry) :
    Turned d policy i s e.channel.sent ((b >>= recording).advance e).1
      ((b >>= recording).advance e).2 := by
  show Turned d policy i s e.channel.sent ((b.bind recording).advance e).1
    ((b.bind recording).advance e).2
  -- What a node is answered matters only at the end of its handling.
  have other : Except RunError NodeResult := .ok .succeeded
  induction follows generalizing s e with
  | done o =>
    obtain ⟨tells, answered⟩ := step_there (d := d) there other
    refine ⟨[.task i other], none, ?_, .none, ⟨answered ?_, trivial⟩, ?_, rfl⟩
    · show s.move policy (.task i other) = ⟨e.registry.finish o, _⟩
      rw [move, there, same]
      rfl
    · intro _ _ _ asks
      cases asks
    · rw [told, told, tells]
      exact (List.append_nil _).symm
  | @check next next' _ ih =>
    refine .after there other (fun _ _ _ asks => by cases asks) ?_ (List.append_nil _).symm
      (ih _ (getElem?_set_there there _) same)
    rw [move, there, same]
    rfl
  | @emit change next event next' sends _ ih =>
    refine .after there other (fun _ _ _ asks => by cases asks) ?_ (sends e).2
      (ih (getElem?_set_there there _) ((sends e).1.trans same))
    rw [move, there]
    rfl
  | @publish u next next' _ ih =>
    have moved : s.move policy (.task i other) = ⟨(EngineState.publish u e).2.registry,
        s.tasks.set i (some ⟨n, r, next' (EngineState.publish u e).1⟩)⟩ := by
      rw [move, there]
      simp only [EngineState.publish, Registry.serve, same]
      cases s.registry.publish u with
      | ok registry => rfl
      | error error => rw [← same]; rfl
    have sent : (EngineState.publish u e).2.channel.sent = e.channel.sent ++ [] := by
      rw [List.append_nil, EngineState.publish]
      split <;> rfl
    exact .after there other (fun _ _ _ asks => by cases asks) moved sent
      (ih _ (getElem?_set_there there _) rfl)
  | handled answer yields _ ih =>
    refine .after there answer (fun _ _ _ asks => ?_) ?_ (List.append_nil _).symm
      (ih (getElem?_set_there there _) same)
    · cases asks
      exact yields
    · rw [move, there]
      rfl
  | read _ ih => exact ih _ there same
  | @write change next _ _ _ aside _ ih =>
    have turned := ih there ((aside e).1.trans same)
    rwa [(aside e).2] at turned
  | pause h =>
    refine ⟨[], some ⟨n, r, _⟩, ?_, .some ⟨_, h, rfl⟩, .none rfl⟩
    obtain ⟨less, at'⟩ := List.getElem?_eq_some_iff.mp there
    rw [← at', List.set_getElem_self]
    show s = ⟨e.registry, s.tasks⟩
    rw [same]

end Runs

/-! ## Turns of the scheduler -/

/-- The tasks of a scheduler in their order: those of runs, and others, which leave the registry and
the channel alone. -/
inductive Aligned (d : Dispatcher) :
    List (Option (Activity EngineState Unit)) → List (Option RunTask) → Prop where
  | nil : Aligned d [] []
  | run {a t as ts} (alike : Alike d a t) (h : Aligned d as ts) : Aligned d (a :: as) (t :: ts)
  | aside {a as ts} (aside : ∀ b, a = some b → b.Aside) (h : Aligned d as ts) :
    Aligned d (a :: as) ts

namespace Aligned

variable {d : Dispatcher} {as bs : List (Option (Activity EngineState Unit))}
  {ts us : List (Option RunTask)}

theorem append (h : Aligned d as ts) (h' : Aligned d bs us) : Aligned d (as ++ bs) (ts ++ us) := by
  induction h with
  | nil => exact h'
  | run alike _ ih => exact .run alike ih
  | aside aside _ ih => exact .aside aside ih

/-- A task is one of those that leave the registry and the channel alone, or that of a run. -/
theorem place (h : Aligned d as ts) {i : Nat} {a : Activity EngineState Unit}
    (there : as[i]? = some (some a)) :
    (a.Aside ∧ ∀ rest : Option (Activity EngineState Unit), (∀ b, rest = some b → b.Aside) →
      Aligned d (as.set i rest) ts) ∨
    ∃ j t, ts[j]? = some (some t) ∧ t.DoneBy d a ∧
      ∀ rest task, Alike d rest task → Aligned d (as.set i rest) (ts.set j task) := by
  induction h generalizing i with
  | nil => cases there
  | @run first t as ts alike h ih =>
    cases i with
    | zero =>
      cases there
      cases alike with
      | @some _ t done => exact .inr ⟨0, t, rfl, done, fun _ _ alike => .run alike h⟩
    | succ i =>
      rcases ih there with ⟨aside, set⟩ | ⟨j, t, there, done, set⟩
      · exact .inl ⟨aside, fun rest aside => .run alike (set rest aside)⟩
      · exact .inr ⟨j + 1, t, there, done, fun rest task alike' => .run alike (set rest task alike')⟩
  | @aside first as ts aside h ih =>
    cases i with
    | zero =>
      cases there
      exact .inl ⟨aside _ rfl, fun rest aside => .aside aside h⟩
    | succ i =>
      rcases ih there with ⟨aside', set⟩ | ⟨j, t, there, done, set⟩
      · exact .inl ⟨aside', fun rest aside' => .aside aside (set rest aside')⟩
      · exact .inr ⟨j, t, there, done, fun rest task alike => .aside aside (set rest task alike)⟩

end Aligned

namespace Scheduler

/-- The tasks of a scheduler are those of the runs of a state, and both have the same registry. -/
structure Interleaves (d : Dispatcher) (s : Scheduler EngineState) (t : Runs) : Prop where
  registry : s.shared.registry = t.registry
  tasks : Aligned d s.tasks t.tasks

/-- A scheduler goes on as the tasks of a state do with some steps, and sends what these tell. -/
structure Goes (d : Dispatcher) (policy : RevisitPolicy) (t : Runs) (ms : List Move)
    (s s' : Scheduler EngineState) : Prop where
  interleaves : s'.Interleaves d (t.moves policy ms)
  plays : t.Plays d policy [] ms s.shared.channel.sent s'.shared.channel.sent

theorem Goes.append {d : Dispatcher} {policy : RevisitPolicy} {t : Runs} {ms ms' : List Move}
    {s s' s'' : Scheduler EngineState} (h : Goes d policy t ms s s')
    (h' : Goes d policy (t.moves policy ms) ms' s' s'') : Goes d policy t (ms ++ ms') s s'' where
  interleaves := Runs.moves_append policy ms ms' t ▸ h'.interleaves
  plays := h.plays.append h'.plays

variable {d : Dispatcher} {s s' : Scheduler EngineState} {t : Runs} (h : s.Interleaves d t)
  (policy : RevisitPolicy)
include h

/-- Who is ready and who waits does not matter. -/
theorem Interleaves.other (registry : s'.shared.registry = s.shared.registry)
    (tasks : s'.tasks = s.tasks) : s'.Interleaves d t :=
  ⟨registry.trans h.registry, tasks ▸ h.tasks⟩

/-- A task more that leaves the registry and the channel alone. -/
theorem Interleaves.added {a : Activity EngineState Unit} (aside : a.Aside)
    (shared : s'.shared = s.shared) (tasks : s'.tasks = s.tasks ++ [some a]) :
    s'.Interleaves d t where
  registry := shared ▸ h.registry
  tasks := by
    have last : Aligned d [some a] [] := .aside (fun _ same => Option.some.inj same ▸ aside) .nil
    have all := h.tasks.append last
    rwa [List.append_nil, ← tasks] at all

/-- No step leaves everything as it is. -/
theorem Interleaves.goes_nowhere (shared : s'.shared = s.shared) (tasks : s'.tasks = s.tasks) :
    Goes d policy t [] s s' :=
  ⟨h.other (congrArg EngineState.registry shared) tasks, .none (by rw [shared])⟩

/-- A turn is some steps. -/
theorem Interleaves.turn (i : Nat) : ∃ ms, Goes d policy t ms s (s.turn i) := by
  have idle (none : ∀ a, s.tasks[i]? ≠ some (some a)) : s.turn i = s := by
    rw [Scheduler.turn]
    split
    next a there => exact absurd there (none a)
    next => rfl
  by_cases there : ∃ a, s.tasks[i]? = some (some a)
  · obtain ⟨a, there⟩ := there
    obtain ⟨shared, tasks⟩ := turn_there there
    rcases h.tasks.place there with ⟨aside, set⟩ | ⟨j, task, there', ⟨b, follows, rfl⟩, set⟩
    · obtain ⟨⟨registry, channel⟩, rest⟩ := aside.advance s.shared
      refine ⟨[], ⟨?_, tasks ▸ set _ rest⟩, .none ?_⟩
      · rw [shared]
        exact registry.trans h.registry
      · rw [shared, channel]
    · obtain ⟨ms, task', moved, alike, plays⟩ :=
        Runs.turned_of_advance policy follows there' h.registry
      refine ⟨ms, ⟨?_, ?_⟩, shared ▸ plays⟩
      · rw [shared, moved]
      · rw [tasks, moved]
        exact set _ _ alike
  · have same := idle fun a here => there ⟨a, here⟩
    exact ⟨[], h.goes_nowhere policy (by rw [same]) (by rw [same])⟩

/-- What is next is some steps; that time goes on is none. -/
theorem Interleaves.next {enough : Scheduler EngineState → Bool}
    (next : s.next? enough = some s') : ∃ ms, Goes d policy t ms s s' := by
  unfold next? at next
  split at next
  next i rest ready =>
    cases next
    have taken : Interleaves d { s with ready := rest } t := h.other rfl rfl
    obtain ⟨ms, turned⟩ := taken.turn policy i
    exact ⟨ms, turned.interleaves, turned.plays⟩
  next =>
    split at next
    next i rest yielded =>
      cases next
      have taken : Interleaves d { s with ready := rest, yielded := [] } t := h.other rfl rfl
      obtain ⟨ms, turned⟩ := taken.turn policy i
      exact ⟨ms, turned.interleaves, turned.plays⟩
    next =>
      split at next
      · cases next
      · unfold wake? at next
        split at next
        · cases next
        · cases next
          exact ⟨[], h.goes_nowhere policy rfl rfl⟩

/-- To let the tasks go on is some steps. -/
theorem Interleaves.run (enough : Scheduler EngineState → Bool) :
    ∃ ms, Goes d policy t ms s (s.run enough) := by
  induction s using Scheduler.run.induct enough generalizing t with
  | case1 s stop =>
    rw [Scheduler.run, stop]
    exact ⟨[], h.goes_nowhere policy rfl rfl⟩
  | case2 s s' next ih =>
    obtain ⟨ms, goes⟩ := h.next policy next
    obtain ⟨ms', further⟩ := ih goes.interleaves
    rw [Scheduler.run, next]
    exact ⟨ms ++ ms', goes.append further⟩

end Scheduler

/-! ## Engines -/

namespace Engine

/-- What an engine comes to by calls of clients, by letting its tasks go on, and by whatever comes
over its browser session from outside. -/
inductive Reaches (e : Engine) : Engine → Prop where
  | refl : Reaches e e
  | start {e' e'' : Engine} (r : RunRequest) (h : Reaches e e') (started : e'.start r = .ok e'') :
    Reaches e e''
  | wait {e' e'' : Engine} {id : String} {o : Outcome} (h : Reaches e e')
    (waited : e'.wait id = .ok (o, e'')) : Reaches e e''
  | cancel {e' e'' : Engine} {id : String} {accepted : Bool} (h : Reaches e e')
    (canceled : e'.cancel id = .ok (accepted, e'')) : Reaches e e''
  | forget {e' : Engine} (id : String) (h : Reaches e e') : Reaches e (e'.forget id).2
  | waitForEvent {e' : Engine} (event : Event) (position : Nat) (h : Reaches e e') :
    Reaches e (e'.waitForEvent event position).2
  | runUntil {e' : Engine} (enough : EngineState → Bool) (h : Reaches e e') :
    Reaches e (e'.runUntil enough)
  | settle {e' : Engine} (h : Reaches e e') : Reaches e e'.settle
  | elapse {e' : Engine} (milliseconds : Nat) (h : Reaches e e') : Reaches e (e'.elapse milliseconds)
  | observe {e' : Engine} (generation : Nat) (h : Reaches e e') : Reaches e (e'.observe generation)
  | shutdown {e' : Engine} (h : Reaches e e') : Reaches e e'.shutdown
  | disturbed {e' : Engine} (session : Session) (h : Reaches e e') :
    Reaches e (e'.changed (EngineState.withSession session))

/-- An engine whose tasks are those of the runs of a state. -/
structure Interleaves (e : Engine) (policy : RevisitPolicy) (t : Runs) : Prop where
  policy : e.policy = policy
  scheduler : e.scheduler.Interleaves e.dispatcher t

/-- An engine goes on as the runs of a state do with some moves, sends what these tell, and is called
as often as they say. -/
structure Goes (policy : RevisitPolicy) (t : Runs) (calls ms : List Move) (e e' : Engine) :
    Prop where
  interleaves : e'.Interleaves policy (t.moves policy ms)
  dispatcher : e'.dispatcher = e.dispatcher
  plays : t.Plays e.dispatcher policy calls ms e.state.channel.sent e'.state.channel.sent

variable {policy : RevisitPolicy} {e e' : Engine} {t : Runs}

theorem Goes.append {calls calls' ms ms' : List Move} {e'' : Engine}
    (h : Goes policy t calls ms e e') (h' : Goes policy (t.moves policy ms) calls' ms' e' e'') :
    Goes policy t (calls ++ calls') (ms ++ ms') e e'' where
  interleaves := Runs.moves_append policy ms ms' t ▸ h'.interleaves
  dispatcher := h'.dispatcher.trans h.dispatcher
  plays := h.plays.append (h.dispatcher ▸ h'.plays)

theorem interleaves_open {network : Web.Network} {c : Config} {session : Session}
    (opened : Engine.open network c session = .opened e) :
    e.Interleaves c.engine.revisitPolicy .idle := by
  unfold Engine.open at opened
  split at opened
  · cases opened
  · split at opened
    · cases opened
    · cases opened
      exact ⟨rfl, rfl, .nil⟩

omit [Regex.Library] in
/-- Nothing has been sent in an engine that has just been opened. -/
theorem sent_open {network : Web.Network} {c : Config} {session : Session}
    (opened : Engine.open network c session = .opened e) : e.state.channel.sent = [] := by
  unfold Engine.open at opened
  split at opened
  · cases opened
  next channel capacity =>
    split at opened
    · cases opened
    · cases opened
      unfold Channel.open? at capacity
      split at capacity
      · cases capacity
      · cases capacity
        rfl

section

variable (h : e.Interleaves policy t)
include h

/-- A call that changes nothing. -/
theorem Interleaves.call {m : Move} (call : m.isCall = true) (silent : t.tells m = [])
    (answered : t.Answered e.dispatcher m) (same : t.move policy m = t) :
    Goes policy t [m] [m] e e where
  interleaves := by
    show e.Interleaves policy (t.move policy m)
    rwa [same]
  dispatcher := rfl
  plays := ⟨⟨answered, trivial⟩, by rw [Runs.told, Runs.told, silent, List.append_nil,
    List.append_nil], List.filter_eq_self.mpr fun _ there => List.mem_singleton.mp there ▸ call⟩

/-- A run that is started has a task. -/
theorem Interleaves.start {r : RunRequest} (started : e.start r = .ok e') :
    Goes policy t [.start r] [.start r] e e' := by
  have same : e.registry = t.registry := h.scheduler.registry
  unfold Engine.start at started
  rw [same] at started
  split at started
  · cases started
  next registry registration registered =>
    cases started
    refine ⟨⟨h.policy, ?_, ?_⟩, rfl, ⟨trivial, trivial⟩, (List.append_nil _).symm, rfl⟩
    · show registry = (t.move policy (.start r)).registry
      rw [Runs.move, registered]
    · show Aligned e.dispatcher _ (t.move policy (.start r)).tasks
      rw [Runs.move, registered, ← h.policy]
      exact h.scheduler.tasks.append
        (.run (.some (doneBy_runTask e.dispatcher e.policy registration r)) .nil)

theorem Interleaves.cancel {id : String} {accepted : Bool}
    (canceled : e.cancel id = .ok (accepted, e')) :
    Goes policy t [.cancel id] [.cancel id] e e' := by
  have same : e.registry = t.registry := h.scheduler.registry
  unfold Engine.cancel at canceled
  rw [same] at canceled
  split at canceled
  · cases canceled
  next registry accepted' asked =>
    cases canceled
    have moved : t.moves policy [.cancel id] = { t with registry } := by
      show t.move policy (.cancel id) = _
      rw [Runs.move, asked]
    refine ⟨?_, rfl, ⟨trivial, trivial⟩, (List.append_nil _).symm, rfl⟩
    rw [moved]
    exact ⟨h.policy, rfl, h.scheduler.tasks⟩

theorem Interleaves.forget (id : String) :
    Goes policy t [.forget id] [.forget id] e (e.forget id).2 := by
  have same : e.registry = t.registry := h.scheduler.registry
  refine ⟨⟨h.policy, ?_, h.scheduler.tasks⟩, rfl, ⟨trivial, trivial⟩, (List.append_nil _).symm, rfl⟩
  show (e.registry.forget id).1 = (t.registry.forget id).1
  rw [same]

/-- What is done to the scheduler is done to the engine. -/
theorem Interleaves.goes {ms : List Move} {s' : Scheduler EngineState}
    (goes : Scheduler.Goes e.dispatcher policy t ms e.scheduler s') :
    Goes policy t [] ms e { e with scheduler := s' } :=
  ⟨⟨h.policy, goes.interleaves⟩, rfl, goes.plays⟩

/-- No move leaves the tasks as they are, and what they share but for the browser session. -/
theorem Interleaves.goes_nowhere (dispatcher : e'.dispatcher = e.dispatcher)
    (policies : e'.policy = e.policy) (registry : e'.registry = e.registry)
    (channel : e'.state.channel = e.state.channel) (tasks : e'.scheduler.tasks = e.scheduler.tasks) :
    Goes policy t [] [] e e' where
  interleaves := ⟨policies.trans h.policy, dispatcher ▸ h.scheduler.other registry tasks⟩
  dispatcher := dispatcher
  plays := .none (by rw [channel])

/-- To let the tasks go on, until whatever it takes. -/
theorem Interleaves.goes_on (enough : Scheduler EngineState → Bool) :
    ∃ ms, Goes policy t [] ms e { e with scheduler := e.scheduler.run enough } := by
  obtain ⟨ms, goes⟩ := h.scheduler.run policy enough
  exact ⟨ms, h.goes goes⟩

theorem Interleaves.run (enough : Scheduler EngineState → Bool) :
    ∃ ms, Interleaves { e with scheduler := e.scheduler.run enough } policy
      (t.moves policy ms) := by
  obtain ⟨ms, goes⟩ := h.goes_on enough
  exact ⟨ms, goes.interleaves⟩

/-- Whatever time it is then. -/
theorem Interleaves.elapse (milliseconds : Nat) :
    ∃ ms, Goes policy t [] ms e (e.elapse milliseconds) := by
  let goal := e.scheduler.now + milliseconds
  obtain ⟨ms, goes⟩ := h.goes_on fun s => s.sleeping.all fun sleeper => decide (goal < sleeper.1)
  have late : Goes policy (t.moves policy ms) [] [] _ (e.elapse milliseconds) :=
    goes.interleaves.goes_nowhere rfl rfl rfl rfl rfl
  exact ⟨ms ++ [], goes.append late⟩

/-- An observer that is given a task leaves the registry and the channel alone. -/
theorem Interleaves.observe (generation : Nat) :
    Goes policy t [] [] e (e.observe generation) where
  interleaves := ⟨h.policy, h.scheduler.added (Activity.aside_onSession _) rfl rfl⟩
  dispatcher := rfl
  plays := .none rfl

theorem Interleaves.shutdown : ∃ ms, Goes policy t [] ms e e.shutdown := by
  unfold Engine.shutdown
  split
  · have added : Scheduler.Interleaves e.dispatcher
        { e.scheduler with tasks := e.scheduler.tasks ++ [some (onSession Session.closing)] } t :=
      h.scheduler.added (Activity.aside_onSession _) rfl rfl
    obtain ⟨ms, entered⟩ := added.turn policy e.scheduler.tasks.length
    obtain ⟨ms', closed⟩ := entered.interleaves.run policy fun s =>
      (s.tasks[e.scheduler.tasks.length]?.getD none).isNone
    obtain ⟨interleaves, plays⟩ := entered.append closed
    exact ⟨ms ++ ms', h.goes ⟨interleaves, plays⟩⟩
  · exact ⟨[], h.goes_nowhere rfl rfl rfl rfl rfl⟩

end

omit [Regex.Library] [Web.Library] in
/-- To wait is to let the tasks go on until the waiter is answered. -/
theorem wait_ok {id : String} {o : Outcome} (waited : e.wait id = .ok (o, e')) :
    ∃ n, e.registry.subscribe id = .ok n ∧
      e' = e.runUntil (fun s => (s.registry.poll id n).isSome) ∧
      e'.registry.poll id n = some (.ok o) := by
  unfold Engine.wait at waited
  split at waited
  · cases waited
  next n subscribed =>
    dsimp only at waited
    split at waited
    next answer answered =>
      cases answer with
      | error error => cases waited
      | ok outcome =>
        cases waited
        exact ⟨n, subscribed, rfl, answered⟩
    next => cases waited

/-! ## What happens to an engine -/

/-- What may happen to an engine: a client calls it, its tasks go on, or something comes over its
browser session from outside. -/
inductive Act where
  | start (r : RunRequest)
  | status (id : String)
  | wait (id : String)
  | cancel (id : String)
  | forget (id : String)
  | waitForEvent (event : Event) (position : Nat)
  | runUntil (enough : EngineState → Bool)
  | settle
  | elapse (milliseconds : Nat)
  | observe (generation : Nat)
  | shutdown
  | disturbed (session : Session)

/-- The move that it is, if it is a call about a run. -/
def Act.call? : Act → Option Move
  | start r => some (.start r)
  | status id => some (.status id)
  | wait id => some (.wait id)
  | cancel id => some (.cancel id)
  | forget id => some (.forget id)
  | _ => none

/-- The engine after that. A call that fails changes nothing. -/
def act (e : Engine) : Act → Engine
  | .start r =>
    match e.start r with
    | .ok e' => e'
    | .error _ => e
  | .status _ => e
  | .wait id =>
    match e.wait id with
    | .ok (_, e') => e'
    | .error _ => e
  | .cancel id =>
    match e.cancel id with
    | .ok (_, e') => e'
    | .error _ => e
  | .forget id => (e.forget id).2
  | .waitForEvent event position => (e.waitForEvent event position).2
  | .runUntil enough => e.runUntil enough
  | .settle => e.settle
  | .elapse milliseconds => e.elapse milliseconds
  | .observe generation => e.observe generation
  | .shutdown => e.shutdown
  | .disturbed session => e.changed (EngineState.withSession session)

/-- The engine after all that happens to it. -/
def acts (e : Engine) (happens : List Act) : Engine :=
  happens.foldl act e

/-- Whatever an engine comes to is what happens to it. -/
theorem Reaches.acts (reaches : e.Reaches e') : ∃ happens, e' = e.acts happens := by
  -- One thing more happens.
  have more {e₁ e₂ : Engine} (a : Act) (same : e₂ = e₁.act a) :
      (∃ happens, e₁ = e.acts happens) → ∃ happens, e₂ = e.acts happens := by
    rintro ⟨happens, rfl⟩
    exact ⟨happens ++ [a], by rw [same, Engine.acts, Engine.acts, List.foldl_append]; rfl⟩
  induction reaches with
  | refl => exact ⟨[], rfl⟩
  | start r _ started ih => exact more (.start r) (by rw [act, started]) ih
  | @wait _ _ id _ _ waited ih => exact more (.wait id) (by rw [act, waited]) ih
  | @cancel _ _ id _ _ canceled ih => exact more (.cancel id) (by rw [act, canceled]) ih
  | forget id _ ih => exact more (.forget id) rfl ih
  | waitForEvent event position _ ih => exact more (.waitForEvent event position) rfl ih
  | runUntil enough _ ih => exact more (.runUntil enough) rfl ih
  | settle _ ih => exact more .settle rfl ih
  | elapse milliseconds _ ih => exact more (.elapse milliseconds) rfl ih
  | observe generation _ ih => exact more (.observe generation) rfl ih
  | shutdown _ ih => exact more .shutdown rfl ih
  | disturbed session _ ih => exact more (.disturbed session) rfl ih

/-- Whatever happens is some moves, and if it is a call, then one of them is that call. -/
theorem Interleaves.act (h : e.Interleaves policy t) (a : Act) :
    ∃ ms, Goes policy t a.call?.toList ms e (e.act a) := by
  have same : e.registry = t.registry := h.scheduler.registry
  cases a with
  | start r =>
    refine ⟨[.start r], ?_⟩
    rw [Engine.act]
    split
    next e' started => exact h.start started
    next error refused =>
      refine h.call rfl rfl trivial ?_
      unfold Engine.start at refused
      rw [same] at refused
      split at refused
      next unregistered => rw [Runs.move, unregistered]
      next => cases refused
  | status id => exact ⟨[.status id], h.call rfl rfl trivial rfl⟩
  | wait id =>
    rw [Engine.act]
    split
    next o e' waited =>
      obtain ⟨n, _, rfl, _⟩ := wait_ok waited
      obtain ⟨ms, goes⟩ := h.goes_on _
      have waits : Goes policy t [.wait id] [.wait id] e e := h.call rfl rfl trivial rfl
      exact ⟨_, waits.append goes⟩
    next => exact ⟨[.wait id], h.call rfl rfl trivial rfl⟩
  | cancel id =>
    refine ⟨[.cancel id], ?_⟩
    rw [Engine.act]
    split
    next accepted e' canceled => exact h.cancel canceled
    next error refused =>
      refine h.call rfl rfl trivial ?_
      unfold Engine.cancel at refused
      rw [same] at refused
      split at refused
      next unknown => rw [Runs.move, unknown]
      next => cases refused
  | forget id => exact ⟨_, h.forget id⟩
  | waitForEvent event position => exact h.goes_on _
  | runUntil enough => exact h.goes_on _
  | settle => exact h.goes_on _
  | elapse milliseconds => exact h.elapse milliseconds
  | observe generation => exact ⟨_, h.observe generation⟩
  | shutdown => exact h.shutdown
  | disturbed session => exact ⟨_, h.goes_nowhere rfl rfl rfl rfl rfl⟩

/-- **What happens to an engine is what its runs come to by some moves**, the calls of clients among
them are those that it gets, and what it sends is what the moves tell. -/
theorem Interleaves.acts (h : e.Interleaves policy t) (happens : List Act) :
    ∃ ms, Goes policy t (happens.filterMap Act.call?) ms e (e.acts happens) := by
  induction happens generalizing e t with
  | nil => exact ⟨[], h.goes_nowhere rfl rfl rfl rfl rfl⟩
  | cons a happens ih =>
    obtain ⟨ms, goes⟩ := h.act a
    obtain ⟨ms', further⟩ := ih goes.interleaves
    refine ⟨ms ++ ms', ?_⟩
    have calls : (a :: happens).filterMap Act.call? =
        a.call?.toList ++ happens.filterMap Act.call? := by
      rw [List.filterMap_cons]
      cases a.call? <;> rfl
    rw [calls]
    exact goes.append further

theorem Reaches.interleaved (reaches : e.Reaches e') (h : e.Interleaves policy t) :
    ∃ ms, e'.Interleaves policy (t.moves policy ms) := by
  obtain ⟨happens, rfl⟩ := reaches.acts
  obtain ⟨ms, goes⟩ := h.acts happens
  exact ⟨ms, goes.interleaves⟩

end Engine

end Automation
