import Automation.Browser.Session
import Automation.Proofs.Browser.Lifecycle
import Automation.Proofs.Browser.Retries
import Automation.Web.Standard

/-!
# Sessions that tasks share

A task that holds the lock pauses while a page works or a navigation waits, and meanwhile the browser
is disturbed. Whatever reaches it, the task does what an operation does in a world with a schedule of
these disturbances (`held_runs`). So every session that tasks can come to is one of a system
(`Session.Reachable.system`), and what is true of the sessions of systems is true of it
(`sessions_closed_once`). What a task performs is tried as any action is (`perform_tried`).
-/

namespace Automation

/-! ## Activities amid disturbances -/

/-- An activity runs from a state to a value and a state, while something outside may change the
state whenever the activity pauses. -/
def Activity.Runs (outside : σ → σ → Prop) : Activity σ α → σ → α → σ → Prop
  | done a, s, v, s' => v = a ∧ s' = s
  | read next, s, v, s' => (next s).Runs outside s v s'
  | write change next, s, v, s' => next.Runs outside (change s) v s'
  | pause _ next, s, v, s' => ∃ t, outside s t ∧ next.Runs outside t v s'

/-- One activity runs after another. -/
theorem Activity.runs_bind {outside : σ → σ → Prop} {x : Activity σ α} {f : α → Activity σ β}
    {s s' : σ} {v : β} (h : (x >>= f).Runs outside s v s') :
    ∃ u t, x.Runs outside s u t ∧ (f u).Runs outside t v s' := by
  replace h : (x.bind f).Runs outside s v s' := h
  induction x generalizing s with
  | done a => exact ⟨a, s, ⟨rfl, rfl⟩, h⟩
  | read next ih => exact ih s h
  | write change next ih => exact ih h
  | pause reason next ih =>
    obtain ⟨t, changed, h⟩ := h
    obtain ⟨u, t', first, second⟩ := ih h
    exact ⟨u, t', ⟨t, changed, first⟩, second⟩

/-- If nothing has to change at a pause, an activity runs from every state. -/
theorem Activity.exists_runs {outside : σ → σ → Prop} (still : ∀ s, outside s s)
    (x : Activity σ α) (s : σ) : ∃ v s', x.Runs outside s v s' := by
  induction x generalizing s with
  | done a => exact ⟨a, s, rfl, rfl⟩
  | read next ih => exact ih s s
  | write change next ih => exact ih (change s)
  | pause reason next ih =>
    obtain ⟨v, s', runs⟩ := ih s
    exact ⟨v, s', s, still s, runs⟩

/-- What reaches a session while somebody else holds its lock. -/
def Session.Disturbed (s t : Session) : Prop :=
  ∃ ds, t = { s with browser := s.browser.disturbed ds }

theorem Session.Disturbed.refl (s : Session) : Session.Disturbed s s := ⟨[], rfl⟩

theorem ScriptedBrowser.disturbed_append (b : ScriptedBrowser) (early late : List Disturbance) :
    (b.disturbed early).disturbed late = b.disturbed (early ++ late) :=
  List.foldl_append.symm

/-- An activity on the browser corresponds to a computation in worlds if, however it runs amid
disturbances, some schedule makes the computation end with the same and leave the schedule behind it.
What reaches the browser after the last step is left over, for the next step to come. -/
def worldCorrespondence : Correspondence (Activity Session) (StateM World) where
  Holds x y := ∀ s v s', x.Runs Session.Disturbed s v s' →
    s'.toSessionState = s.toSessionState ∧
    ∀ b early, s.browser = b.disturbed early → ∃ b' late, s'.browser = b'.disturbed late ∧
      ∀ rest, ∃ schedule, y.run ⟨b, schedule⟩ = (v, ⟨b', rest⟩)
  pure a := by
    rintro s _ _ ⟨rfl, rfl⟩
    exact ⟨rfl, fun b early same => ⟨b, early, same, fun rest => ⟨rest, rfl⟩⟩⟩
  bind := by
    intro _ _ x y f g hx hf s v s' runs
    obtain ⟨u, t, first, second⟩ := Activity.runs_bind runs
    obtain ⟨kept, hx⟩ := hx s u t first
    obtain ⟨kept', hf⟩ := hf u t v s' second
    refine ⟨kept'.trans kept, fun b early same => ?_⟩
    -- What is left over after the first part comes before the first step of the second.
    obtain ⟨b₁, between, same₁, hx⟩ := hx b early same
    obtain ⟨b₂, late, same₂, hf⟩ := hf b₁ between same₁
    refine ⟨b₂, late, same₂, fun rest => ?_⟩
    obtain ⟨middle, ends⟩ := hf rest
    obtain ⟨schedule, begins⟩ := hx middle
    refine ⟨schedule, ?_⟩
    show (g (y.run ⟨b, schedule⟩).1).run (y.run ⟨b, schedule⟩).2 = (v, ⟨b₂, rest⟩)
    rw [begins, ends]

/-- A step of the browser happens after what reached it before. -/
theorem onBrowser_corresponds (f : ScriptedBrowser → α × ScriptedBrowser) :
    worldCorrespondence.Holds (Session.onBrowser f) (World.step f) := by
  rintro s _ _ ⟨rfl, rfl⟩
  refine ⟨rfl, fun b early same => ⟨(f s.browser).2, [], rfl, fun rest => ⟨early :: rest, ?_⟩⟩⟩
  show ((f (b.disturbed early)).1, (⟨(f (b.disturbed early)).2, rest⟩ : World)) = _
  rw [← same]

/-- While time passes, disturbances reach the browser. -/
theorem sleep_corresponds (milliseconds : Nat) :
    worldCorrespondence.Holds (Activity.sleep milliseconds) (pure ()) := by
  intro s v s' runs
  unfold Activity.sleep at runs
  split at runs
  · exact worldCorrespondence.pure () s v s' runs
  · obtain ⟨_, ⟨ds, rfl⟩, rfl, rfl⟩ := runs
    refine ⟨rfl, fun b early same => ⟨b, early ++ ds, ?_, fun rest => ⟨rest, rfl⟩⟩⟩
    rw [← b.disturbed_append, ← same]

theorem watch_corresponds (index generation : Nat) :
    worldCorrespondence.Holds (Session.watch index generation) (pure ()) := by
  rintro s _ _ ⟨rfl, rfl⟩
  exact ⟨rfl, fun b early same => ⟨b, early, same, fun rest => ⟨rest, rfl⟩⟩⟩

/-- The browser of a session corresponds to that of a world. -/
theorem backend_corresponds : Session.backend.Corresponds worldCorrespondence World.backend where
  launch := onBrowser_corresponds _
  isUsable index := onBrowser_corresponds fun b => (b.isUsable index, b)
  page index := by
    refine ⟨fun c => ?_, onBrowser_corresponds fun b => (Except.ok (some (b.url index)), b),
      worldCorrespondence.pure _, sleep_corresponds⟩
    refine worldCorrespondence.bind (onBrowser_corresponds _) fun delay => ?_
    refine worldCorrespondence.bind (sleep_corresponds delay) fun _ => ?_
    refine worldCorrespondence.bind (onBrowser_corresponds _) fun answer => ?_
    cases answer with
    | error e => exact worldCorrespondence.pure _
    | ok _ => exact onBrowser_corresponds _
  close index part := onBrowser_corresponds fun b => b.close index part
  watch := watch_corresponds

/-- **Whoever holds the lock does what it does in a world**, amid what reaches the browser meanwhile. -/
theorem held_runs {x : Managed (Activity Session) α} {y : Managed (StateM World) α}
    (h : (Browser.managed worldCorrespondence).Holds x y) {s s' : Session} {v : α}
    (runs : (Session.held x).Runs Session.Disturbed s v s') :
    ∃ schedule w late, (y.run s.toSessionState).run ⟨s.browser, schedule⟩ =
      ((v, s'.toSessionState), w) ∧ s'.browser = w.browser.disturbed late := by
  -- The body starts before any disturbance. What reaches the browser after its last step is left.
  obtain ⟨⟨u, state⟩, t, body, rest⟩ := Activity.runs_bind
    (x := x.run s.toSessionState) (f := fun p => (do
      Activity.modify fun s => { s with toSessionState := p.2 }
      pure p.1)) runs
  obtain ⟨rfl, rfl⟩ := rest
  obtain ⟨_, body⟩ := h s.toSessionState s _ t body
  obtain ⟨b', late, same, body⟩ := body s.browser [] rfl
  obtain ⟨schedule, body⟩ := body []
  exact ⟨schedule, _, late, body, same⟩

/-! ## What tasks can come to -/

namespace Session

variable [Web.Library]

/-- **The sessions that tasks can come to.** Tasks hold the lock one after another, to acquire the
session, to perform a valid action, to shut the session down or to observe a loss, amid disturbances;
and there are disturbances between them. -/
inductive Reachable : Session → Prop where
  | start : Reachable (start .fresh)
  | acquire {s s' v} (before : Reachable s) (runs : (held backend.acquire).Runs Disturbed s v s') :
    Reachable s'
  | perform {s s' v config a} (before : Reachable s) (valid : a.validate = .ok ())
    (runs : (held (backend.attempts config a config.maxActionRetries)).Runs Disturbed s v s') :
    Reachable s'
  | shutdown {s s' v} (before : Reachable s) (runs : (held backend.shutdown).Runs Disturbed s v s') :
    Reachable s'
  | observer {s s' v generation} (before : Reachable s)
    (runs : (held (modify (SessionState.observe generation))).Runs Disturbed s v s') : Reachable s'
  | disturbed {s s'} (before : Reachable s) (h : Disturbed s s') : Reachable s'

end Session

namespace System

variable [Web.Library]

/-- The system after some disturbances. -/
theorem run_disturbances (S : System) (ds : List Disturbance) :
    S.run (ds.map .disturbance) = { S with browser := S.browser.disturbed ds } := by
  induction ds generalizing S with
  | nil => rfl
  | cons d rest ih => exact ih (S.step (.disturbance d))

theorem run_append (S : System) (early late : List Happening) :
    S.run (early ++ late) = (S.run early).run late :=
  List.foldl_append

/-- Whether the system shows a session. -/
def Shows (S : System) (s : Session) : Prop :=
  S.state = s.toSessionState ∧ S.browser = s.browser

/-- An operation of a task is one of the system, which keeps a journal besides. -/
theorem Shows.operated {S : System} {s s' : Session} (h : S.Shows s)
    {x : Managed (Activity Session) α} {y : Managed (StateM World) α}
    {z : Managed (Journaled World) α} {v : α}
    (inWorld : (Browser.managed worldCorrespondence).Holds x y)
    (erased : (Browser.managed (journalErased World)).Holds z y)
    (runs : (Session.held x).Runs Session.Disturbed s v s') :
    ∃ (schedule : List (List Disturbance)) (late : List Disturbance),
      ((S.operated schedule z).run (late.map .disturbance)).Shows s' := by
  obtain ⟨schedule, w, late, run, same⟩ := held_runs inWorld runs
  refine ⟨schedule, late, ?_⟩
  have erased := erased S.state ⟨S.browser, schedule⟩
  rw [h.1, h.2, run] at erased
  rw [run_disturbances, System.operated, h.1, h.2]
  refine ⟨congrArg (fun p => p.1.2) erased, ?_⟩
  rw [same, ← congrArg (fun p => p.2.browser) erased]

end System

section

variable [Web.Library]

/-- **Every session that tasks can come to is one of a system.** -/
theorem Session.Reachable.system {s : Session} (h : Session.Reachable s) :
    ∃ happenings, (System.start.run happenings).Shows s := by
  have inWorld := backend_corresponds
  have erased := journaled_corresponds World.backend
  -- What happened before, an operation and then disturbances.
  have extend (before : List Happening) {s : Session} (happening : Happening)
      (late : List Disturbance) (h : (((System.start.run before).step happening).run
        (late.map .disturbance)).Shows s) : ∃ happenings, (System.start.run happenings).Shows s :=
    ⟨before ++ happening :: late.map .disturbance, by rwa [System.run_append]⟩
  induction h with
  | start => exact ⟨[], rfl, rfl⟩
  | acquire _ runs ih =>
    obtain ⟨before, ih⟩ := ih
    obtain ⟨schedule, late, h⟩ := ih.operated (Browser.acquire_corresponds inWorld)
      (Browser.acquire_corresponds erased) runs
    exact extend before (.acquire schedule) late h
  | @perform _ _ _ config a _ valid runs ih =>
    obtain ⟨before, ih⟩ := ih
    obtain ⟨schedule, late, h⟩ := ih.operated (Browser.attempts_corresponds inWorld config a _)
      (Browser.attempts_corresponds erased config a _) runs
    refine extend before (.perform config a schedule) late ?_
    show ((System.operated _ schedule (World.backend.journaled.perform id config a)).run _).Shows _
    unfold Browser.perform
    rw [valid]
    exact h
  | shutdown _ runs ih =>
    obtain ⟨before, ih⟩ := ih
    obtain ⟨schedule, late, h⟩ := ih.operated (Browser.shutdown_corresponds inWorld)
      (Browser.shutdown_corresponds erased) runs
    exact extend before (.shutdown schedule) late h
  | @observer _ _ _ generation _ runs ih =>
    obtain ⟨before, ih⟩ := ih
    obtain ⟨rfl, rfl⟩ := runs
    refine extend before (.observer generation) [] ⟨?_, ih.2⟩
    exact congrArg (SessionState.observe generation) ih.1
  | disturbed _ changed ih =>
    obtain ⟨before, ih⟩ := ih
    obtain ⟨ds, rfl⟩ := changed
    refine ⟨before ++ ds.map .disturbance, ?_⟩
    rw [System.run_append, System.run_disturbances]
    exact ⟨ih.1, congrArg (fun b => b.disturbed ds) ih.2⟩

end

/-- **Sessions are closed once.** Whatever happens, in whatever order: there are as many launched
sessions as generations. Each of them but the one in use had its page, its context and its process
closed once. The one in use is the last one, and no part of it was closed. The calls that a session
recorded are those of the journal, and in the journal none is recorded on a session after a part of
it was closed. And every session that tasks can come to is one of these. -/
theorem sessions_closed_once [Web.Library] :
    (∀ happenings : List Happening, let S := System.start.run happenings
      S.browser.sessions.length = S.state.generation ∧
      (∀ i session, S.browser.sessions[i]? = some session → S.state.current ≠ some i →
        session.pageCloses = 1 ∧ session.contextCloses = 1 ∧ session.processCloses = 1) ∧
      (∀ i, S.state.current = some i → i + 1 = S.browser.sessions.length ∧
        ∃ session, S.browser.sessions[i]? = some session ∧
          session.pageCloses = 0 ∧ session.contextCloses = 0 ∧ session.processCloses = 0) ∧
      (∀ i session, S.browser.sessions[i]? = some session →
        session.calls = S.journal.filterMap (Entry.recordedOn? i)) ∧
      S.journal.Pairwise fun earlier later =>
        ∀ i part c, earlier = .closed i part → later ≠ .called i c none) ∧
    ∀ s, Session.Reachable s → ∃ happenings, (System.start.run happenings).Shows s := by
  refine ⟨fun happenings => ?_, fun s reached => reached.system⟩
  intro S
  have tidy : S.Tidy := (show System.start.Tidy from .init).run happenings
  have length : S.browser.sessions.length = S.state.generation := by
    have length : S.browser.records.length = S.state.generation := tidy.launched
    rwa [ScriptedBrowser.records, List.length_map] at length
  have record {i : Nat} {session : LaunchedSession} (h : S.browser.sessions[i]? = some session) :
      S.browser.records[i]? = some session.record := by
    rw [ScriptedBrowser.records, List.getElem?_map, h, Option.map_some]
  refine ⟨length, fun i session h other => ?_, fun i inUse => ?_, fun i session h => ?_, tidy.quiet⟩
  · have closes := (tidy.closes i session.record (record h)).trans (if_neg other)
    simpa [LaunchedSession.record] using closes
  · have last : i + 1 = S.browser.sessions.length := (tidy.last i inUse).trans length.symm
    have there : i < S.browser.sessions.length := by omega
    refine ⟨last, _, List.getElem?_eq_getElem there, ?_⟩
    have closes := (tidy.closes i _ (record (List.getElem?_eq_getElem there))).trans (if_pos inUse)
    simpa [LaunchedSession.record] using closes
  · exact tidy.calls i session.record (record h)

/-- A click of a task, while nothing disturbs the browser. -/
theorem sessions_closed_once_click :
    let config := BrowserConfig.default
    let a : BrowserAction := ⟨.click, none, some "#go", none, none, []⟩
    ∃ answer s',
      (Session.held (Session.backend.attempts config a config.maxActionRetries)).Runs
        Session.Disturbed (.start .fresh) answer s' ∧
      s'.Reachable ∧ ∃ happenings, (System.start.run happenings).Shows s' := by
  intro config a
  obtain ⟨answer, s', runs⟩ := Activity.exists_runs Session.Disturbed.refl
    (Session.held (Session.backend.attempts config a config.maxActionRetries)) (.start .fresh)
  have reached : s'.Reachable := .perform .start rfl runs
  exact ⟨answer, s', runs, reached, sessions_closed_once.2 s' reached⟩

end Automation
