import Automation.Proofs.Browser.Observers

/-!
# The session and its observers

A `Scene` is a system with the observers that still wait. Operations, disturbances and turns of
observers come in any order. Each of them keeps the session attentive, and as many sessions launched
as its generation says (`Scene.Sound.step`); so this is so in every scene (`Scene.Sound.run`).
-/

namespace Automation

/-! ## Counting launches -/

/-- Whether a session was launched. -/
def Entry.isLaunched : Entry → Bool
  | launched (.ok _) => true
  | _ => false

/-- The journal of any browser counts the generations, as long as it is used in order. -/
theorem journal_counts (b : Browser (StateM σ)) :
    b.journaled.Keeps fun held _ j => j.countP Entry.isLaunched = held.1 where
  launch := by
    intro n w j h
    refine Journaled.ensures_journal fun answer w' => ?_
    cases answer <;> simpa [Entry.isLaunched] using h
  isUsable index := fun w j h => Journaled.ensures_journal fun _ _ => by simpa using h
  page n index := by
    refine ⟨fun c => ?_, ?_, ?_, fun milliseconds => ?_⟩ <;>
      exact fun w j h => Journaled.ensures_journal fun _ _ => by simpa [Entry.isLaunched] using h
  teardown := by
    intro n index w j h
    refine Journaled.ensures_journal fun _ _ => Journaled.ensures_journal fun _ _ =>
      Journaled.ensures_journal fun _ _ => ?_
    simpa [Entry.isLaunched] using h
  watch index generation := fun w j h => Journaled.ensures_journal fun _ _ => by simpa using h

/-! ## Scenes -/

/-- A system with the observers that wait in it. -/
structure Scene extends System where
  waiting : List (Nat × Nat)

namespace Scene

/-- Nothing has happened yet. -/
def start : Scene := ⟨.start, []⟩

/-- The world of the scene, with disturbances to come. -/
def attended (S : Scene) (schedule : List (List Disturbance)) : Attended :=
  ⟨⟨S.browser, schedule⟩, S.waiting⟩

/-- What an operation answers, and the scene after it. -/
def operated (S : Scene) (schedule : List (List Disturbance)) (x : Managed (Journaled Attended) α) :
    α × Scene :=
  let ran := (x.run S.state).run.run (S.attended schedule)
  (ran.1.1.1, ⟨⟨ran.1.1.2, ran.2.browser, S.journal ++ ran.1.2⟩, ran.2.waiting⟩)

/-- Acquires the session. -/
def acquired (S : Scene) (schedule : List (List Disturbance)) : Except BrowserError Nat × Scene :=
  S.operated schedule Attended.backend.journaled.acquire

/-- An observer can have its turn: it waits, and the loss of its session was signalled. -/
def Pending (S : Scene) (o : Nat × Nat) : Prop :=
  o ∈ S.waiting ∧ S.browser.isSignalled o.1 = true

/-- The scene after the turn of the observer of a generation, if there is one that can have it. -/
def observed (S : Scene) (generation : Nat) : Scene :=
  match S.waiting.find? fun o => o.2 = generation ∧ S.browser.isSignalled o.1 = true with
  | none => S
  | some o => { S with state := S.state.observe generation, waiting := S.waiting.erase o }

/-- The scene after something happened. -/
def step [Web.Library] (S : Scene) : Happening → Scene
  | .acquire schedule => (S.acquired schedule).2
  | .perform config a schedule =>
    (S.operated schedule (Attended.backend.journaled.perform id config a)).2
  | .shutdown schedule => (S.operated schedule Attended.backend.journaled.shutdown).2
  | .disturbance d => { S with browser := d.apply S.browser }
  | .observer generation => S.observed generation

/-- The scene after a number of things happened. -/
def run [Web.Library] (S : Scene) (happenings : List Happening) : Scene :=
  happenings.foldl step S

/-! ## What holds of every scene -/

/-- The session is attentive, and the journal counts its generations. -/
structure Sound (S : Scene) : Prop where
  attentive : Attentive S.state (S.attended [])
  launches : S.journal.countP Entry.isLaunched = S.state.generation

variable {S : Scene}

/-- The turn of an observer does something only to the session that is ready, and only on its
behalf. -/
theorem observed_cases (S : Scene) (generation : Nat) :
    S.observed generation = S ∨ ∃ i, S.Pending (i, generation) ∧ S.observed generation =
      { S with state := S.state.observe generation,
               waiting := S.waiting.erase (i, generation) } := by
  unfold observed
  cases found : S.waiting.find? fun o => o.2 = generation ∧ S.browser.isSignalled o.1 = true with
  | none => exact .inl rfl
  | some o =>
    obtain ⟨i, g⟩ := o
    obtain ⟨rfl, signalled⟩ : g = generation ∧ S.browser.isSignalled i = true := by
      simpa using List.find?_some found
    exact .inr ⟨i, ⟨List.mem_of_find?_eq_some found, signalled⟩, rfl⟩

namespace Sound

theorem init : start.Sound where
  attentive := ⟨⟨rfl, by simp [start, System.start, SessionState.start],
    by simp [start, attended]⟩, by rintro ⟨⟩, fun _ => rfl⟩
  launches := rfl

/-- An operation that keeps the session attentive and uses the browser in order. -/
theorem operated (h : S.Sound) {x : Managed (Journaled Attended) α}
    (attentive : ∀ {s w}, Attentive s w → x.Ensures s w fun _ s' w' _ => Attentive s' w')
    (counts : x.Preserves fun held _ j => j.countP Entry.isLaunched = held.1)
    (schedule : List (List Disturbance)) : (S.operated schedule x).2.Sound where
  attentive := (attentive (w := S.attended schedule) (h.attentive.later rfl (.refl _))).later rfl
    (.refl _)
  launches := counts S.state (S.attended schedule) S.journal h.launches

theorem acquire (h : S.Sound) (schedule : List (List Disturbance)) :
    (S.acquired schedule).2.Sound :=
  h.operated (fun h => (Attended.acquire_acquired h).mono fun _ _ _ _ h => h.attentive)
    (Browser.acquire_preserves (journal_counts _)) schedule

/-- A turn of an observer. If the session stays ready, the turn was not that of its own observer. -/
theorem observed (h : S.Sound) (generation : Nat) : (S.observed generation).Sound := by
  rcases S.observed_cases generation with same | ⟨i, -, same⟩
  · rwa [same]
  rw [same]
  have own : ∀ o ∈ S.waiting.erase (i, generation), o.2 = o.1 + 1 := fun o waits =>
    h.attentive.own o (List.mem_of_mem_erase waits)
  unfold SessionState.observe
  split
  case isTrue =>
    refine ⟨?_, h.launches⟩
    exact Counted.lost ⟨h.attentive.launched, h.attentive.last, own⟩
  case isFalse late =>
    refine ⟨⟨⟨h.attentive.launched, h.attentive.last, own⟩, fun ready => ?_, h.attentive.absent⟩,
      h.launches⟩
    obtain ⟨current, inUse, waits, signals⟩ := h.attentive.ready ready
    have other : (current, S.state.generation) ≠ (i, generation) := fun same =>
      late ⟨congrArg Prod.snd same, ready⟩
    exact ⟨current, inUse, (List.mem_erase_of_ne other).mpr waits, signals⟩

/-- **One step** keeps a scene sound. -/
theorem step [Web.Library] (h : S.Sound) (happening : Happening) : (S.step happening).Sound := by
  have counts := journal_counts Attended.backend
  cases happening with
  | acquire schedule => exact h.acquire schedule
  | perform config a schedule =>
    exact h.operated (Attended.perform_attentive config a)
      (Browser.perform_preserves counts config a) schedule
  | shutdown schedule =>
    exact h.operated Attended.shutdown_attentive (Browser.shutdown_preserves counts) schedule
  | disturbance d =>
    exact ⟨h.attentive.later rfl (S.browser.later_disturbed [d]), h.launches⟩
  | observer generation => exact h.observed generation

/-- **Any number of steps** keeps a scene sound. -/
theorem run [Web.Library] (h : S.Sound) (happenings : List Happening) :
    (S.run happenings).Sound := by
  induction happenings generalizing S with
  | nil => exact h
  | cons happening rest ih => exact ih (h.step happening)

end Sound

/-! ## What users of the session rely on -/

/-- Whatever happens is added to the journal. -/
theorem journal_run [Web.Library] (S : Scene) (happenings : List Happening) :
    ∃ late, (S.run happenings).journal = S.journal ++ late := by
  induction happenings generalizing S with
  | nil => exact ⟨[], (List.append_nil _).symm⟩
  | cons happening rest ih =>
    obtain ⟨now, first⟩ : ∃ now, (S.step happening).journal = S.journal ++ now := by
      cases happening with
      | acquire | perform | shutdown => exact ⟨_, rfl⟩
      | disturbance => exact ⟨[], (List.append_nil _).symm⟩
      | observer generation =>
        rcases S.observed_cases generation with same | ⟨i, -, same⟩ <;>
          exact ⟨[], by rw [List.append_nil]; exact congrArg (fun S => S.journal) same⟩
    obtain ⟨late, others⟩ := ih (S.step happening)
    exact ⟨now ++ late, by rw [← List.append_assoc, ← first]; exact others⟩

/-- The turn of an observer makes nothing of the session but that the one that it waits for, if that
is ready, is disconnected. -/
theorem Sound.observed_state (h : S.Sound) (generation : Nat) :
    (S.observed generation).state = S.state ∨
      S.state.status = .ready ∧ S.state.generation = generation ∧
        (S.observed generation).state = S.state.withStatus .disconnected ∧
        ∃ i, S.state.current = some i ∧ S.Pending (i, generation) := by
  rcases S.observed_cases generation with same | ⟨i, pending, same⟩
  · exact .inl (by rw [same])
  rw [same]
  unfold SessionState.observe
  split
  case isTrue this =>
    obtain ⟨current, inUse, -⟩ := h.attentive.ready this.2
    -- Both are the launched session of this generation.
    have last := h.attentive.last current inUse
    have own : generation = i + 1 := h.attentive.own _ pending.1
    obtain rfl : current = i := by omega
    exact .inr ⟨this.2, this.1, rfl, current, inUse, pending⟩
  case isFalse => exact .inl rfl

/-- While its observer cannot have its turn, a session that is ready has its process. -/
theorem Sound.connected_of_quiet (h : S.Sound) (quiet : ∀ o, ¬S.Pending o)
    (ready : S.state.status = .ready) :
    ∃ i session, S.state.current = some i ∧ S.browser.sessions[i]? = some session ∧
      session.connected = true := by
  obtain ⟨i, inUse, waits, session, there, signals⟩ := h.attentive.ready ready
  have there : S.browser.sessions[i]? = some session := there
  refine ⟨i, session, inUse, there, ?_⟩
  by_contra lost
  refine quiet (i, S.state.generation) ⟨waits, ?_⟩
  simpa [ScriptedBrowser.isSignalled, there] using signals (by simpa using lost)

/-- Whoever acquires the session gets one that is ready and can take calls. -/
theorem Sound.acquired_usable (h : S.Sound) {schedule : List (List Disturbance)} {g : Nat}
    (answer : (S.acquired schedule).1 = .ok g) :
    (S.acquired schedule).2.state.status = .ready ∧ (S.acquired schedule).2.state.generation = g ∧
      ∃ i, (S.acquired schedule).2.state.current = some i ∧
        (S.acquired schedule).2.browser.isUsable i = true :=
  (Attended.acquire_acquired (w := S.attended schedule)
    (h.attentive.later rfl (.refl _))).usable g answer

/-- Between two scenes the generation grows by the sessions that are launched. -/
theorem generation_eq_iff {S' : Scene} {late : List Entry} (h : S.Sound) (h' : S'.Sound)
    (journal : S'.journal = S.journal ++ late) :
    S'.state.generation = S.state.generation ↔ ∀ i, .launched (.ok i) ∉ late := by
  have none : late.countP Entry.isLaunched = 0 ↔ ∀ i, .launched (.ok i) ∉ late := by
    rw [List.countP_eq_zero]
    refine ⟨fun h i launched => h _ launched rfl, fun h e he launched => ?_⟩
    unfold Entry.isLaunched at launched
    split at launched
    · exact h _ he
    · cases launched
  rw [← none, ← h.launches, ← h'.launches, journal, List.countP_append]
  omega

end Scene

end Automation
