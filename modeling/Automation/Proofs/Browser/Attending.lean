import Automation.Proofs.Browser.Running
import Automation.Proofs.Browser.Scene
import Automation.Web.Standard

/-!
# Observers of a session that tasks share

What a task does to the session while it holds the lock is what an operation does in an attended
world (`held_attended`): whoever is observed from then on waits there. So every session that tasks
can come to, with the observers that still wait for it, is one of a scene (`Session.Attends.scene`),
which has all that users of the session rely on (`session_attended`).
-/

namespace Automation

/-! ## Activities in attended worlds -/

/-- An activity on the browser corresponds to a computation in attended worlds if, however it runs
amid disturbances, some schedule makes the computation end with the same, leave the schedule behind
it, and have those wait whom the activity has observed. -/
def attendedCorrespondence : Correspondence (Activity Session) (StateM Attended) where
  Holds x y := ∀ s v s', x.Runs Session.Disturbed s v s' →
    s'.toSessionState = s.toSessionState ∧ ∃ joined, s'.observed = s.observed ++ joined ∧
      ∀ b early, s.browser = b.disturbed early → ∃ b' late, s'.browser = b'.disturbed late ∧
        ∀ waiting rest, ∃ schedule,
          y.run ⟨⟨b, schedule⟩, waiting⟩ = (v, ⟨⟨b', rest⟩, waiting ++ joined⟩)
  pure a := by
    rintro s _ _ ⟨rfl, rfl⟩
    refine ⟨rfl, [], (List.append_nil _).symm, fun b early same => ⟨b, early, same, ?_⟩⟩
    exact fun waiting rest => ⟨rest, by rw [List.append_nil]; rfl⟩
  bind := by
    intro _ _ x y f g hx hf s v s' runs
    obtain ⟨u, t, first, second⟩ := Activity.runs_bind runs
    obtain ⟨kept, joined, observed, hx⟩ := hx s u t first
    obtain ⟨kept', joined', observed', hf⟩ := hf u t v s' second
    refine ⟨kept'.trans kept, joined ++ joined', ?_, fun b early same => ?_⟩
    · rw [observed', observed, List.append_assoc]
    obtain ⟨b₁, between, same₁, hx⟩ := hx b early same
    obtain ⟨b₂, late, same₂, hf⟩ := hf b₁ between same₁
    refine ⟨b₂, late, same₂, fun waiting rest => ?_⟩
    obtain ⟨middle, ends⟩ := hf (waiting ++ joined) rest
    obtain ⟨schedule, begins⟩ := hx waiting middle
    refine ⟨schedule, ?_⟩
    rw [run_andThen, begins]
    show (g u).run _ = _
    rw [ends, List.append_assoc]

/-- What concerns nothing but the world leaves alone whom the session has observed. -/
theorem inWorld_corresponds {x : Activity Session α} {y : StateM World α}
    (h : worldCorrespondence.Holds x y)
    (observed : ∀ s v s', x.Runs Session.Disturbed s v s' → s'.observed = s.observed) :
    attendedCorrespondence.Holds x (Attended.inWorld y) := by
  intro s v s' runs
  obtain ⟨kept, h⟩ := h s v s' runs
  refine ⟨kept, [], by rw [observed s v s' runs, List.append_nil], fun b early same => ?_⟩
  obtain ⟨b', late, same', h⟩ := h b early same
  refine ⟨b', late, same', fun waiting rest => ?_⟩
  obtain ⟨schedule, run⟩ := h rest
  refine ⟨schedule, ?_⟩
  show ((y.run ⟨b, schedule⟩).1, (⟨(y.run ⟨b, schedule⟩).2, waiting⟩ : Attended)) = _
  rw [run, List.append_nil]

theorem onBrowser_attended (f : ScriptedBrowser → α × ScriptedBrowser) :
    attendedCorrespondence.Holds (Session.onBrowser f) (Attended.inWorld (World.step f)) := by
  refine inWorld_corresponds (onBrowser_corresponds f) ?_
  rintro s _ _ ⟨rfl, rfl⟩
  rfl

theorem sleep_attended (milliseconds : Nat) :
    attendedCorrespondence.Holds (Activity.sleep milliseconds) (pure ()) := by
  refine inWorld_corresponds (y := pure ()) (sleep_corresponds milliseconds) fun s v s' runs => ?_
  unfold Activity.sleep at runs
  split at runs
  · obtain ⟨rfl, rfl⟩ := runs
    rfl
  · obtain ⟨_, ⟨ds, rfl⟩, rfl, rfl⟩ := runs
    rfl

theorem watch_attended (index generation : Nat) :
    attendedCorrespondence.Holds (Session.watch index generation)
      (Attended.watch index generation) := by
  rintro s _ _ ⟨rfl, rfl⟩
  exact ⟨rfl, [(index, generation)], rfl, fun b early same =>
    ⟨b, early, same, fun waiting rest => ⟨rest, rfl⟩⟩⟩

/-- The browser of a session corresponds to that of an attended world. -/
theorem backend_attended : Session.backend.Corresponds attendedCorrespondence Attended.backend where
  launch := onBrowser_attended _
  isUsable index := onBrowser_attended fun b => (b.isUsable index, b)
  page index := by
    refine ⟨fun c => ?_, onBrowser_attended fun b => (Except.ok (some (b.url index)), b),
      attendedCorrespondence.pure _, sleep_attended⟩
    refine attendedCorrespondence.bind (onBrowser_attended _) fun delay => ?_
    refine attendedCorrespondence.bind (sleep_attended delay) fun _ => ?_
    refine attendedCorrespondence.bind (onBrowser_attended _) fun answer => ?_
    cases answer with
    | error e => exact attendedCorrespondence.pure _
    | ok _ => exact onBrowser_attended _
  close index part := onBrowser_attended fun b => b.close index part
  watch := watch_attended

/-- **Whoever holds the lock does what it does in an attended world**, amid what reaches the browser
meanwhile. -/
theorem held_attended {x : Managed (Activity Session) α} {y : Managed (StateM Attended) α}
    (h : (Browser.managed attendedCorrespondence).Holds x y) {s s' : Session} {v : α}
    (runs : (Session.held x).Runs Session.Disturbed s v s') (waiting : List (Nat × Nat)) :
    ∃ joined schedule w late, s'.observed = s.observed ++ joined ∧
      (y.run s.toSessionState).run ⟨⟨s.browser, schedule⟩, waiting⟩ = ((v, s'.toSessionState), w) ∧
      s'.browser = w.browser.disturbed late ∧ w.waiting = waiting ++ joined := by
  obtain ⟨⟨u, state⟩, t, body, rest⟩ := Activity.runs_bind
    (x := x.run s.toSessionState) (f := fun p => (do
      Activity.modify fun s => { s with toSessionState := p.2 }
      pure p.1)) runs
  obtain ⟨rfl, rfl⟩ := rest
  obtain ⟨_, joined, observed, body⟩ := h s.toSessionState s _ t body
  obtain ⟨b', late, same, body⟩ := body s.browser [] rfl
  obtain ⟨schedule, body⟩ := body waiting []
  exact ⟨joined, schedule, _, late, observed, body, same, rfl⟩

/-! ## What tasks can come to -/

namespace Session

variable [Web.Library]

/-- **The sessions that tasks can come to, with the observers that still wait.** Tasks hold the lock
one after another, to acquire the session, to perform a valid action or to shut the session down,
amid disturbances; then those wait, too, whom they have observed. An observer takes its turn once
the loss of its session was signalled. And there are disturbances between them. -/
inductive Attends : Session → List (Nat × Nat) → Prop where
  | start : Attends (start .fresh) []
  | acquire {s s' v waiting joined} (before : Attends s waiting)
    (runs : (held backend.acquire).Runs Disturbed s v s')
    (joins : s'.observed = s.observed ++ joined) : Attends s' (waiting ++ joined)
  | perform {s s' v config a waiting joined} (before : Attends s waiting)
    (valid : a.validate = .ok ())
    (runs : (held (backend.attempts config a config.maxActionRetries)).Runs Disturbed s v s')
    (joins : s'.observed = s.observed ++ joined) : Attends s' (waiting ++ joined)
  | shutdown {s s' v waiting joined} (before : Attends s waiting)
    (runs : (held backend.shutdown).Runs Disturbed s v s')
    (joins : s'.observed = s.observed ++ joined) : Attends s' (waiting ++ joined)
  | observer {s s' v index generation waiting} (before : Attends s waiting)
    (waits : (index, generation) ∈ waiting) (signalled : s.browser.isSignalled index = true)
    (runs : (held (modify (SessionState.observe generation))).Runs Disturbed s v s') :
    Attends s' (waiting.erase (index, generation))
  | disturbed {s s' waiting} (before : Attends s waiting) (h : Disturbed s s') : Attends s' waiting

end Session

namespace Scene

/-- Whether the scene shows a session and those who wait for it. -/
def Shows (S : Scene) (s : Session) (waiting : List (Nat × Nat)) : Prop :=
  S.state = s.toSessionState ∧ S.browser = s.browser ∧ S.waiting = waiting

/-- An observer that can have its turn has it. -/
theorem Sound.observed_of_pending {S : Scene} (h : S.Sound) {index generation : Nat}
    (pending : S.Pending (index, generation)) : S.observed generation =
      { S with state := S.state.observe generation,
               waiting := S.waiting.erase (index, generation) } := by
  unfold Scene.observed
  cases found : S.waiting.find? fun o => o.2 = generation ∧ S.browser.isSignalled o.1 = true with
  | none => exact absurd pending.2 (by simpa using List.find?_eq_none.mp found _ pending.1)
  | some o =>
    -- There is one observer of the generation.
    have own := h.attentive.own o (List.mem_of_find?_eq_some found)
    have own' := h.attentive.own _ pending.1
    obtain ⟨i, g⟩ := o
    obtain ⟨rfl, _⟩ : g = generation ∧ S.browser.isSignalled i = true := by
      simpa using List.find?_some found
    obtain rfl : i = index := by dsimp only at own own'; omega
    rfl

variable [Web.Library]

theorem run_append (S : Scene) (early late : List Happening) :
    S.run (early ++ late) = (S.run early).run late :=
  List.foldl_append

/-- The scene after some disturbances. -/
theorem run_disturbances (S : Scene) (ds : List Disturbance) :
    S.run (ds.map .disturbance) = { S with browser := S.browser.disturbed ds } := by
  induction ds generalizing S with
  | nil => rfl
  | cons d rest ih => exact ih (S.step (.disturbance d))

/-- An operation of a task is one of the scene, which keeps a journal besides. -/
theorem Shows.operated {S : Scene} {s s' : Session} {waiting joined : List (Nat × Nat)}
    (h : S.Shows s waiting) {x : Managed (Activity Session) α} {y : Managed (StateM Attended) α}
    {z : Managed (Journaled Attended) α} {v : α}
    (attended : (Browser.managed attendedCorrespondence).Holds x y)
    (erased : (Browser.managed (journalErased Attended)).Holds z y)
    (runs : (Session.held x).Runs Session.Disturbed s v s')
    (joins : s'.observed = s.observed ++ joined) :
    ∃ (schedule : List (List Disturbance)) (late : List Disturbance),
      ((S.operated schedule z).2.run (late.map .disturbance)).Shows s' (waiting ++ joined) := by
  obtain ⟨joined', schedule, w, late, joins', run, same, waits⟩ :=
    held_attended attended runs waiting
  obtain rfl : joined' = joined := List.append_cancel_left (joins'.symm.trans joins)
  refine ⟨schedule, late, ?_⟩
  have erased := erased S.state (S.attended schedule)
  rw [Scene.attended, h.1, h.2.1, h.2.2, run] at erased
  rw [run_disturbances, Scene.operated, Scene.attended, h.1, h.2.1, h.2.2]
  refine ⟨congrArg (fun p => p.1.2) erased, ?_, ?_⟩
  · rw [same, ← congrArg (fun p => p.2.browser) erased]
  · rw [← waits, ← congrArg (fun p => p.2.waiting) erased]

end Scene

/-- **Every session that tasks can come to is one of a scene**, with those who wait for it. -/
theorem Session.Attends.scene [Web.Library] {s : Session} {waiting : List (Nat × Nat)}
    (h : Attends s waiting) :
    ∃ happenings, (Scene.start.run happenings).Shows s waiting := by
  have attended := backend_attended
  have erased := journaled_corresponds Attended.backend
  -- What happened before, an operation and then disturbances.
  have extend (before : List Happening) {s : Session} {waiting : List (Nat × Nat)}
      (happening : Happening) (late : List Disturbance)
      (h : (((Scene.start.run before).step happening).run (late.map .disturbance)).Shows
        s waiting) :
      ∃ happenings, (Scene.start.run happenings).Shows s waiting :=
    ⟨before ++ happening :: late.map .disturbance, by rwa [Scene.run_append]⟩
  induction h with
  | start => exact ⟨[], rfl, rfl, rfl⟩
  | acquire _ runs joins ih =>
    obtain ⟨before, ih⟩ := ih
    obtain ⟨schedule, late, h⟩ := ih.operated (Browser.acquire_corresponds attended)
      (Browser.acquire_corresponds erased) runs joins
    exact extend before (.acquire schedule) late h
  | @perform _ _ _ config a _ _ _ valid runs joins ih =>
    obtain ⟨before, ih⟩ := ih
    obtain ⟨schedule, late, h⟩ := ih.operated (Browser.attempts_corresponds attended config a _)
      (Browser.attempts_corresponds erased config a _) runs joins
    refine extend before (.perform config a schedule) late ?_
    show ((Scene.operated _ schedule
      (Attended.backend.journaled.perform id config a)).2.run _).Shows _ _
    unfold Browser.perform
    rw [valid]
    exact h
  | shutdown _ runs joins ih =>
    obtain ⟨before, ih⟩ := ih
    obtain ⟨schedule, late, h⟩ := ih.operated (Browser.shutdown_corresponds attended)
      (Browser.shutdown_corresponds erased) runs joins
    exact extend before (.shutdown schedule) late h
  | @observer s _ _ index generation waiting _ waits signalled runs ih =>
    obtain ⟨before, state, browser, same⟩ := ih
    obtain ⟨rfl, rfl⟩ := runs
    have sound : (Scene.start.run before).Sound := Scene.Sound.init.run before
    have pending : (Scene.start.run before).Pending (index, generation) :=
      ⟨same ▸ waits, browser ▸ signalled⟩
    refine extend before (.observer generation) [] ?_
    show ((Scene.start.run before).observed generation).Shows _ _
    rw [sound.observed_of_pending pending]
    exact ⟨congrArg (SessionState.observe generation) state, browser, by rw [← same]⟩
  | disturbed _ changed ih =>
    obtain ⟨before, state, browser, same⟩ := ih
    obtain ⟨ds, rfl⟩ := changed
    refine ⟨before ++ ds.map .disturbance, ?_⟩
    rw [Scene.run_append, Scene.run_disturbances]
    exact ⟨state, congrArg (fun b => b.disturbed ds) browser, same⟩

/-- **The session is attended.** Whatever happens, in whatever order: a session is in use if it is
ready, and none is if it is closed or there was none yet. The turn of an observer changes nothing
but a session that is ready into one that is disconnected, and only the one that it waits for.
Whoever acquires the session has one that is ready, of the generation that was answered, and can
take calls. Two that acquire it have the same generation if and only if none was launched between
them. While no observer can have its turn, a session that is ready has its process. And every session
that tasks can come to, with those who wait for it, is one of these. -/
theorem session_attended [Web.Library] :
    (∀ happenings : List Happening, let S := Scene.start.run happenings
      (S.state.status = .ready → ∃ i, S.state.current = some i) ∧
      (S.state.status = .closed ∨ S.state.status = .uninitialized → S.state.current = none) ∧
      (∀ generation, (S.step (.observer generation)).state = S.state ∨
        S.state.status = .ready ∧ S.state.generation = generation ∧
          (S.step (.observer generation)).state = S.state.withStatus .disconnected ∧
          ∃ i, S.state.current = some i ∧ S.Pending (i, generation)) ∧
      (∀ schedule g, (S.acquired schedule).1 = .ok g →
        let S' := (S.acquired schedule).2
        (S'.state.status = .ready ∧ S'.state.generation = g ∧
          ∃ i, S'.state.current = some i ∧ S'.browser.isUsable i = true) ∧
        ∀ between schedule' g', ((S'.run between).acquired schedule').1 = .ok g' →
          ∃ late, ((S'.run between).acquired schedule').2.journal = S'.journal ++ late ∧
            (g' = g ↔ ∀ i, .launched (.ok i) ∉ late)) ∧
      ((∀ o, ¬S.Pending o) → S.state.status = .ready →
        ∃ i session, S.state.current = some i ∧ S.browser.sessions[i]? = some session ∧
          session.connected = true)) ∧
    ∀ s waiting, Session.Attends s waiting →
      ∃ happenings, (Scene.start.run happenings).Shows s waiting := by
  refine ⟨fun happenings => ?_, fun s waiting attends => attends.scene⟩
  intro S
  have sound : S.Sound := Scene.Sound.init.run happenings
  refine ⟨fun ready => ?_, sound.attentive.absent, sound.observed_state,
    fun schedule g answer => ?_, sound.connected_of_quiet⟩
  · obtain ⟨i, inUse, -⟩ := sound.attentive.ready ready
    exact ⟨i, inUse⟩
  · have usable := sound.acquired_usable answer
    refine ⟨usable, fun between schedule' g' answer' => ?_⟩
    have first := sound.acquire schedule
    have again := (first.run between).acquire schedule'
    obtain ⟨late, journal⟩ :=
      (S.acquired schedule).2.journal_run (between ++ [.acquire schedule'])
    rw [Scene.run, List.foldl_append] at journal
    refine ⟨late, journal, ?_⟩
    rw [← Scene.generation_eq_iff first again journal, usable.2.1,
      ((first.run between).acquired_usable answer').2.1]

/-- A task that acquires the session, while nothing disturbs the browser. -/
theorem session_attended_acquired :
    ∃ v s' joined,
      (Session.held Session.backend.acquire).Runs Session.Disturbed (.start .fresh) v s' ∧
      s'.Attends joined ∧ ∃ happenings, (Scene.start.run happenings).Shows s' joined := by
  obtain ⟨v, s', runs⟩ := Activity.exists_runs Session.Disturbed.refl
    (Session.held Session.backend.acquire) (.start .fresh)
  obtain ⟨joined, _, _, _, joins, _⟩ :=
    held_attended (Browser.acquire_corresponds backend_attended) runs []
  have attends : s'.Attends joined := .acquire .start runs joins
  exact ⟨v, s', joined, runs, attends, session_attended.2 s' joined attends⟩

end Automation
