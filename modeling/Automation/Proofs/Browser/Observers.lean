import Automation.Proofs.Browser.Lifecycle

/-!
# Observers of the session

Every launch has an observer that waits for the process to go away. It may have its turn at any
later time, when another session has been launched, or the one that it belongs to has been closed. A
world is `Attended` if it knows who still waits.

Between operations the session is `Attentive`: one that is ready is in use, its own observer still
waits, and its process does not go away without a signal. Operations keep this: each of them sets
the status to ready only for a session that it has just launched and found to be there
(`launchUsable_acquired`).
-/

namespace Automation

open Managed

/-! ## Signals -/

namespace ScriptedBrowser

/-- A launched session is there, and if its process went away, that was signalled. -/
def Signals (b : ScriptedBrowser) (index : Nat) : Prop :=
  ∃ session, b.sessions[index]? = some session ∧
    (session.connected = false → session.signalled = true)

/-- Whether the loss of a launched session was signalled. -/
def isSignalled (b : ScriptedBrowser) (index : Nat) : Bool :=
  (b.sessions[index]?).any LaunchedSession.signalled

/-- The same sessions later, none of which went away without a signal. -/
structure Later (b b' : ScriptedBrowser) : Prop where
  length : b'.sessions.length = b.sessions.length
  signals : ∀ index, b.Signals index → b'.Signals index

variable {b b' b'' : ScriptedBrowser} {index : Nat}

theorem Later.refl (b : ScriptedBrowser) : b.Later b := ⟨rfl, fun _ => id⟩

theorem Later.trans (h : b.Later b') (h' : b'.Later b'') : b.Later b'' :=
  ⟨h'.length.trans h.length, fun index => h'.signals index ∘ h.signals index⟩

/-- A change of a session that does not lose it without a signal. -/
theorem later_update (b : ScriptedBrowser) (index : Nat) {f : LaunchedSession → LaunchedSession}
    (h : ∀ s, (s.connected = false → s.signalled = true) →
      (f s).connected = false → (f s).signalled = true) : b.Later (b.update index f) where
  length := List.length_modify ..
  signals i := by
    rintro ⟨session, there, signals⟩
    unfold Signals update
    rw [List.getElem?_modify, there]
    by_cases this : index = i
    · exact ⟨f session, by simp [this], h session signals⟩
    · exact ⟨session, by simp [this], signals⟩

/-- Disturbances lose no session without a signal. -/
theorem later_disturbed (b : ScriptedBrowser) (ds : List Disturbance) :
    b.Later (b.disturbed ds) := by
  induction ds generalizing b with
  | nil => exact .refl b
  | cons d rest ih =>
    refine Later.trans ?_ (ih (d.apply b))
    cases d with
    | disconnect index => exact b.later_update index fun _ _ _ => rfl
    | closePage index => exact b.later_update index fun _ => id
    | _ => exact ⟨rfl, fun _ => id⟩

theorem later_call (b : ScriptedBrowser) (index : Nat) (c : PageCall) :
    b.Later (b.call index c).2 := by
  have same : b.Later (b.takeFailure c.operation).2 := ⟨rfl, fun _ => id⟩
  unfold call
  cases taken : b.takeFailure c.operation with
  | mk failure b' =>
    rw [taken] at same
    cases failure with
    | some e => exact same
    | none =>
      dsimp only
      cases b'.sessions[index]? with
      | none => exact same
      | some session =>
        dsimp only
        split
        · exact same
        · split
          · exact same
          · exact same.trans (b'.later_update index fun _ => id)

/-- A session that can take calls is there. -/
theorem signals_of_isUsable (h : b.isUsable index = true) : b.Signals index := by
  unfold isUsable at h
  cases there : b.sessions[index]? with
  | none => simp [there] at h
  | some session =>
    refine ⟨session, there, fun lost => ?_⟩
    simp [there, LaunchedSession.isUsable, lost] at h

theorem length_launch (b : ScriptedBrowser) :
    match b.launch.1 with
    | .error _ => b.launch.2.sessions.length = b.sessions.length
    | .ok index =>
      index = b.sessions.length ∧ b.launch.2.sessions.length = b.sessions.length + 1 := by
  have launched := b.launch_records
  have length (b : ScriptedBrowser) : b.records.length = b.sessions.length := List.length_map _
  cases answer : b.launch.1 with
  | error e =>
    simp only [answer] at launched ⊢
    rw [← length, launched, length]
  | ok index =>
    simp only [answer] at launched ⊢
    rw [← length, ← length, launched.2, List.length_append]
    exact ⟨launched.1, rfl⟩

theorem length_close (b : ScriptedBrowser) (index : Nat) (part : SessionPart) :
    (b.close index part).2.sessions.length = b.sessions.length := by
  have length (b : ScriptedBrowser) : b.records.length = b.sessions.length := List.length_map _
  rw [← length, b.close_records, List.length_modify, length]

end ScriptedBrowser

/-! ## A world with observers -/

/-- A world, and the launched sessions whose observers wait there, with the generations on whose
behalf they do. -/
structure Attended where
  world : World
  waiting : List (Nat × Nat)

namespace Attended

/-- What happens in the world leaves those alone who wait. -/
def inWorld (x : StateM World α) : StateM Attended α := fun w =>
  let (a, world) := x.run w.world
  (a, { w with world })

/-- Has an observer wait. -/
def watch (index generation : Nat) : StateM Attended Unit := fun w =>
  ((), { w with waiting := w.waiting ++ [(index, generation)] })

/-- The browser of a world with observers. -/
def backend : Browser (StateM Attended) :=
  ScriptedBrowser.backend (fun f => inWorld (World.step f)) watch fun _ => pure ()

/-- The browser there. -/
def browser (w : Attended) : ScriptedBrowser := w.world.browser

/-- Nobody waits or leaves, and no session goes away without a signal. -/
def Quiet (x : StateM Attended α) : Prop :=
  ∀ w, (x.run w).2.waiting = w.waiting ∧ w.browser.Later (x.run w).2.browser

namespace Quiet

theorem pure (a : α) : Quiet (Pure.pure a) := fun _ => ⟨rfl, .refl _⟩

theorem bind {x : StateM Attended α} {f : α → StateM Attended β} (hx : Quiet x)
    (hf : ∀ a, Quiet (f a)) : Quiet (x >>= f) := fun w =>
  ⟨(hf _ _).1.trans (hx w).1, (hx w).2.trans (hf _ _).2⟩

/-- A step of the browser, amid disturbances. -/
theorem step {f : ScriptedBrowser → α × ScriptedBrowser}
    (h : ∀ b : ScriptedBrowser, b.Later (f b).2) :
    Quiet (inWorld (World.step f)) := fun w =>
  ⟨rfl, (w.browser.later_disturbed (w.world.schedule.headD [])).trans (h _)⟩

theorem look (f : ScriptedBrowser → α) : Quiet (inWorld (World.step fun b => (f b, b))) :=
  step fun b => .refl b

theorem call (index : Nat) (c : PageCall) : Quiet (backend.call index c) := by
  refine bind (look _) fun _ => bind (pure _) fun _ => bind (step fun b => b.later_call index c) ?_
  intro answer
  cases answer with
  | error e => exact pure _
  | ok _ => exact look _

end Quiet

end Attended

/-! ## What holds between operations -/

/-- The launched sessions are counted: there are as many as generations, the one in use is the last
one, and an observer waits on behalf of the generation of its own session. -/
structure Counted (s : SessionState) (w : Attended) : Prop where
  launched : w.browser.sessions.length = s.generation
  last : ∀ i, s.current = some i → i + 1 = s.generation
  own : ∀ o ∈ w.waiting, o.2 = o.1 + 1

/-- **The invariant of the session and its observers.** A session that is ready is in use, its
observer still waits, and its process does not go away without a signal. No session is in use before
the first one is launched and after the last one was closed. -/
structure Attentive (s : SessionState) (w : Attended) : Prop extends Counted s w where
  ready : s.status = .ready →
    ∃ i, s.current = some i ∧ (i, s.generation) ∈ w.waiting ∧ w.browser.Signals i
  absent : s.status = .closed ∨ s.status = .uninitialized → s.current = none

section

variable {s : SessionState} {w w' : Attended}

theorem Counted.later (h : Counted s w) (waiting : w'.waiting = w.waiting)
    (length : w'.browser.sessions.length = w.browser.sessions.length) : Counted s w' where
  launched := length.trans h.launched
  last := h.last
  own := waiting ▸ h.own

theorem Attentive.later (h : Attentive s w) (waiting : w'.waiting = w.waiting)
    (later : w.browser.Later w'.browser) : Attentive s w' where
  toCounted := h.toCounted.later waiting later.length
  ready status := by
    obtain ⟨i, inUse, observed, signals⟩ := h.ready status
    exact ⟨i, inUse, waiting ▸ observed, later.signals i signals⟩
  absent := h.absent

theorem Counted.withStatus (h : Counted s w) (status : SessionStatus) :
    Counted (s.withStatus status) w :=
  ⟨h.launched, h.last, h.own⟩

/-- A session that is lost needs nothing but to be counted. -/
theorem Counted.lost (h : Counted s w) : Attentive (s.withStatus .disconnected) w where
  toCounted := h.withStatus .disconnected
  ready := by rintro ⟨⟩
  absent := by rintro (⟨⟨⟩⟩ | ⟨⟨⟩⟩)

theorem Counted.released (h : Counted s w) : Counted s.released w :=
  ⟨h.launched, by simp [SessionState.released], h.own⟩

end

/-! ## What operations do -/

/-- What acquiring the session comes to: whoever gets an answer has a session that is ready, of the
generation that was answered, and can take calls. -/
structure Acquired (answer : Except BrowserError Nat) (s : SessionState) (w : Attended) : Prop where
  attentive : Attentive s w
  usable : ∀ g, answer = .ok g → s.status = .ready ∧ s.generation = g ∧
    ∃ i, s.current = some i ∧ w.browser.isUsable i = true

namespace Attended

variable {s : SessionState} {w : Attended}

/-- A launch either fails or counts one session more. -/
theorem launch_counted (h : Counted s w) :
    backend.journaled.launch.Ensures w fun answer w' _ =>
      match answer with
      | .error _ => Counted s w'
      | .ok index => w'.waiting = w.waiting ∧ index = s.generation ∧
          w'.browser.sessions.length = s.generation + 1 := by
  let b := w.browser.disturbed (w.world.schedule.headD [])
  have before : b.sessions.length = s.generation :=
    (w.browser.later_disturbed _).length.trans h.launched
  have launched := b.length_launch
  refine Journaled.ensures_journal_of_run fun answer w' run => ?_
  obtain ⟨rfl, rfl⟩ : b.launch.1 = answer ∧ _ = w' := Prod.mk.inj run
  cases answer : b.launch.1 with
  | error e =>
    simp only [answer] at launched ⊢
    exact h.later rfl (launched.trans (before.trans h.launched.symm))
  | ok index =>
    simp only [answer] at launched ⊢
    exact ⟨trivial, launched.1.trans before, launched.2.trans (congrArg (· + 1) before)⟩

/-- Asking for the session in use tells whether it can take calls. -/
theorem usable?_quiet :
    backend.journaled.usable?.Ensures s w fun index s' w' _ => s' = s ∧ w'.waiting = w.waiting ∧
      w.browser.Later w'.browser ∧
      ∀ i, index = some i → s.current = some i ∧ w'.browser.isUsable i = true := by
  unfold Browser.usable?
  refine ensures_bind (ensures_get ?_)
  split
  case h_1 => exact ensures_pure ⟨rfl, rfl, .refl _, by simp⟩
  case h_2 i inUse =>
    refine ensures_bind (ensures_lift (Journaled.ensures_journal_of_run fun usable w' run => ?_))
    obtain ⟨rfl, rfl⟩ : (w.browser.disturbed (w.world.schedule.headD [])).isUsable i = usable ∧
      _ = w' := Prod.mk.inj run
    refine ensures_pure ⟨rfl, rfl, w.browser.later_disturbed _, fun i' found => ?_⟩
    split at found
    case isTrue usable =>
      cases found
      exact ⟨inUse, usable⟩
    case isFalse => cases found

theorem teardown_counted (h : Counted s w) :
    backend.journaled.teardown.Ensures s w fun _ s' w' _ => s' = s.released ∧ Counted s' w' := by
  have closing (index : Nat) (part : SessionPart) {s : SessionState} {w : Attended}
      (h : Counted s w) :
      (backend.journaled.close index part).Ensures w fun _ w' _ => Counted s w' := by
    refine h.later rfl ?_
    exact (ScriptedBrowser.length_close _ index part).trans (w.browser.later_disturbed _).length
  unfold Browser.teardown
  refine ensures_bind (ensures_get ?_)
  split
  case h_1 none =>
    refine ensures_pure ⟨?_, h⟩
    cases s
    simp_all [SessionState.released]
  case h_2 index inUse =>
    refine ensures_bind (ensures_modify ?_)
    refine ensures_bind (ensures_lift ((closing index .page h.released).mono fun _ w _ h => ?_))
    refine ensures_bind (ensures_lift ((closing index .context h).mono fun _ w _ h => ?_))
    refine ensures_bind (ensures_lift ((closing index .process h).mono fun _ w _ h => ?_))
    exact ensures_pure ⟨rfl, h⟩

/-- A session that was just launched is counted when it is adopted and watched. -/
theorem watch_counted {w' : Attended} (h : Counted s w) (waiting : w'.waiting = w.waiting)
    (length : w'.browser.sessions.length = s.generation + 1) :
    (backend.journaled.watch s.generation (s.generation + 1)).Ensures w' fun _ w'' _ =>
      Counted (s.adopted s.generation) w'' ∧ (s.generation, s.generation + 1) ∈ w''.waiting := by
  refine ⟨⟨length, ?_, fun o waits => ?_⟩, List.mem_append_right _ (List.mem_singleton.mpr rfl)⟩
  · rintro _ ⟨⟩
    rfl
  · rcases List.mem_append.mp waits with early | now
    · exact h.own o (waiting ▸ early)
    · rw [List.mem_singleton.mp now]

/-- **Launching**, by induction on the tries that are left. A session gets an observer of its own,
and it is ready only if it can take calls then. -/
theorem launchUsable_acquired (tries : Nat) (last : BrowserError) (h : Attentive s w) :
    (backend.journaled.launchUsable tries last).Ensures s w fun answer s' w' _ =>
      Acquired answer s' w' := by
  induction tries generalizing last s w with
  | zero => exact ensures_pure ⟨h, by simp⟩
  | succ tries ih =>
    unfold Browser.launchUsable
    refine ensures_bind ((teardown_counted h.toCounted).mono ?_)
    rintro _ _ w _ ⟨rfl, h⟩
    refine ensures_bind (ensures_modify (ensures_bind (ensures_lift ?_)))
    refine (launch_counted h).mono fun launched w' _ h' => ?_
    cases launched with
    | error e => exact ih e h'.lost
    | ok index =>
      obtain ⟨waiting, rfl, length⟩ := h'
      refine ensures_bind (ensures_modify (ensures_bind (ensures_get ?_)))
      refine ensures_bind (ensures_lift ((watch_counted h waiting length).mono ?_))
      rintro _ w _ ⟨counted, waits⟩
      refine ensures_bind (usable?_quiet.mono ?_)
      rintro usable _ w' _ ⟨rfl, waiting, later, found⟩
      cases usable with
      | none =>
        -- The session is adopted all the same, and torn down by the next try.
        exact ih .unusable (counted.later waiting later.length).lost
      | some i =>
        obtain ⟨inUse, usable⟩ := found i rfl
        refine ensures_bind (ensures_modify (ensures_pure ⟨⟨?_, fun _ => ?_, ?_⟩, ?_⟩))
        · exact (counted.later waiting later.length).withStatus .ready
        · obtain rfl := Option.some.inj inUse
          exact ⟨_, rfl, waiting ▸ waits, ScriptedBrowser.signals_of_isUsable usable⟩
        · rintro (⟨⟨⟩⟩ | ⟨⟨⟩⟩)
        · rintro _ ⟨⟩
          exact ⟨rfl, rfl, i, inUse, usable⟩

/-- **Acquiring**: a session that is ready and can take calls is as good as one that is launched. -/
theorem acquire_acquired (h : Attentive s w) :
    backend.journaled.acquire.Ensures s w fun answer s' w' _ => Acquired answer s' w' := by
  have isReady : backend.journaled.isReady.Ensures s w fun ready s' w' _ =>
      s' = s ∧ Attentive s w' ∧ (ready = true →
        s.status = .ready ∧ ∃ i, s.current = some i ∧ w'.browser.isUsable i = true) := by
    unfold Browser.isReady
    refine ensures_bind (ensures_get ?_)
    split
    case isTrue ready =>
      refine ensures_bind (usable?_quiet.mono ?_)
      rintro index _ w' _ ⟨rfl, waiting, later, found⟩
      refine ensures_pure ⟨rfl, h.later waiting later, fun some => ⟨ready, ?_⟩⟩
      obtain ⟨i, rfl⟩ := Option.isSome_iff_exists.mp some
      exact ⟨i, found i rfl⟩
    case isFalse => exact ensures_pure ⟨rfl, h, by simp⟩
  unfold Browser.acquire
  refine ensures_bind (isReady.mono ?_)
  rintro ready _ w' _ ⟨rfl, h, found⟩
  split
  case isTrue ready =>
    obtain ⟨status, usable⟩ := found ready
    refine ensures_bind (ensures_get (ensures_pure ⟨h, ?_⟩))
    rintro _ ⟨⟩
    exact ⟨status, rfl, usable⟩
  case isFalse => exact launchUsable_acquired 2 .unusable h

/-- **Shutting down** leaves no session in use. -/
theorem shutdown_attentive (h : Attentive s w) :
    backend.journaled.shutdown.Ensures s w fun _ s' w' _ => Attentive s' w' := by
  unfold Browser.shutdown
  refine ensures_bind ((teardown_counted h.toCounted).mono ?_)
  rintro _ _ w' _ ⟨rfl, h⟩
  refine ensures_modify ⟨h.withStatus .closed, ?_, fun _ => rfl⟩
  rintro ⟨⟩

/-- Work on a page is quiet. -/
theorem execute_attentive [Web.Library] (config : BrowserConfig) (a : BrowserAction) (index : Nat)
    (h : Attentive s w) :
    Journaled.Ensures (backend.journaled.execute config a index).run w fun _ w' _ =>
      Attentive s w' := by
  have quiet {α : Type} {x : StateM Attended α} {entry : α → List Entry} (hx : Quiet x) :
      (keeping fun w _ => Attentive s w).Holds (journal x entry) (journal x entry) :=
    fun w _ h => h.later (hx w).1 (hx w).2
  have page : backend.journaled.CorrespondsOn (keeping fun w _ => Attentive s w) index
      backend.journaled := by
    refine ⟨fun c => quiet (.call index c), ?_, quiet (.pure _), fun _ => quiet (.pure ())⟩
    exact quiet (.look fun b => Except.ok (some (b.url index)))
  exact Browser.execute_corresponds page config a w [] h

/-- A loss that is noted makes no session ready. -/
theorem noteLoss_attentive (e : BrowserError) (h : Attentive s w) :
    (Browser.noteLoss e : Managed (Journaled Attended) Unit).Ensures s w fun _ s' w' _ =>
      Attentive s' w' := by
  unfold Browser.noteLoss
  split
  · exact ensures_modify h.toCounted.lost
  · exact ensures_pure h

theorem attempt_attentive [Web.Library] (config : BrowserConfig) (a : BrowserAction)
    (h : Attentive s w) :
    (backend.journaled.attempt config a).Ensures s w fun _ s' w' _ => Attentive s' w' := by
  unfold Browser.attempt
  refine ensures_bind ((acquire_acquired h).mono fun answer s' w' _ h => ?_)
  cases answer with
  | error e => exact ensures_pure h.attentive
  | ok generation =>
    refine ensures_bind (usable?_quiet.mono ?_)
    rintro usable _ w' _ ⟨rfl, waiting, later, -⟩
    have h := h.attentive.later waiting later
    cases usable with
    | none => exact ensures_pure h
    | some index => exact ensures_lift (execute_attentive config a index h)

/-- Attempts, by induction on the retries that are left. -/
theorem attempts_attentive [Web.Library] (config : BrowserConfig) (a : BrowserAction)
    (retries : Nat) (h : Attentive s w) :
    (backend.journaled.attempts config a retries).Ensures s w fun _ s' w' _ => Attentive s' w' := by
  induction retries generalizing s w with
  | zero =>
    refine ensures_bind ((attempt_attentive config a h).mono fun outcome s' w' _ h => ?_)
    cases outcome with
    | ok r => exact ensures_pure h
    | error e => exact ensures_bind ((noteLoss_attentive e h).mono fun _ _ _ _ h => ensures_pure h)
  | succ retries ih =>
    refine ensures_bind ((attempt_attentive config a h).mono fun outcome s' w' _ h => ?_)
    cases outcome with
    | ok r => exact ensures_pure h
    | error e =>
      refine ensures_bind ((noteLoss_attentive e h).mono fun _ _ _ _ h => ?_)
      split
      · exact ih h
      · exact ensures_pure h

/-- **Performing** an action, valid or not. -/
theorem perform_attentive [Web.Library] (config : BrowserConfig) (a : BrowserAction)
    (h : Attentive s w) :
    (backend.journaled.perform id config a).Ensures s w fun _ s' w' _ => Attentive s' w' := by
  unfold Browser.perform
  cases a.validate with
  | error e => exact ensures_pure h
  | ok _ => exact attempts_attentive config a _ h

end Attended

end Automation
