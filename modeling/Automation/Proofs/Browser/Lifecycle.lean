import Automation.Proofs.Browser.Order
import Automation.Proofs.Browser.World

/-!
# The life of sessions

Every session that was launched is either in use, and then none of its parts was closed, or was torn
down, each of its parts once; and its page is not called any more (`Tidy`). One step of the browser
after another keeps this, as long as the browser is used in order (`World.keeps_tidy`), and so do the
operations on a session, amid any disturbances (`System.Tidy.step`).
-/

namespace Automation

/-! ## Journals and records -/

/-- The call that an entry shows to be recorded on a session. -/
def Entry.recordedOn? (index : Nat) : Entry → Option PageCall
  | called i c none => if i = index then some c else none
  | _ => none

/-- **The invariant of launched sessions**, of how many were launched and which one is in use, of the
records and of the journal so far. The one in use is the last one that was launched. -/
structure Tidy (held : Nat × Option Nat) (records : List SessionRecord) (j : List Entry) : Prop where
  launched : records.length = held.1
  last : ∀ i, held.2 = some i → i + 1 = held.1
  closes : ∀ i r, records[i]? = some r → r.closes = if held.2 = some i then (0, 0, 0) else (1, 1, 1)
  calls : ∀ i r, records[i]? = some r → r.calls = j.filterMap (Entry.recordedOn? i)
  known : ∀ i c, .called i c none ∈ j → i < records.length
  closed : ∀ i part, .closed i part ∈ j → i < records.length ∧ held.2 ≠ some i
  quiet : j.Pairwise fun earlier later =>
    ∀ i part c, earlier = .closed i part → later ≠ .called i c none

namespace Tidy

variable {n index : Nat} {held : Nat × Option Nat} {records : List SessionRecord} {j : List Entry}

/-- Nothing was launched yet. -/
theorem init : Tidy (0, none) [] [] :=
  ⟨rfl, by simp, by simp, by simp, by simp, by simp, List.Pairwise.nil⟩

/-- An entry that is neither a recorded call nor a closing. -/
theorem entry (h : Tidy held records j) {e : Entry} (notCalled : ∀ i c, e ≠ .called i c none)
    (notClosed : ∀ i part, e ≠ .closed i part) : Tidy held records (j ++ [e]) where
  launched := h.launched
  last := h.last
  closes := h.closes
  -- The entry adds to no record.
  calls i r hr := by
    have none : e.recordedOn? i = none := by
      unfold Entry.recordedOn?
      split
      · exact absurd rfl (notCalled _ _)
      · rfl
    simp [h.calls i r hr, none]
  known i c hc := by
    rcases List.mem_append.mp hc with early | now
    · exact h.known i c early
    · exact absurd (List.mem_singleton.mp now).symm (notCalled i c)
  closed i part hc := by
    rcases List.mem_append.mp hc with early | now
    · exact h.closed i part early
    · exact absurd (List.mem_singleton.mp now).symm (notClosed i part)
  quiet := by
    refine List.pairwise_append.mpr ⟨h.quiet, List.pairwise_singleton .., ?_⟩
    intro earlier _ later hl i part c _
    rw [List.mem_singleton.mp hl]
    exact notCalled i c

/-- A launch, while no session is in use. -/
theorem launch (h : Tidy (n, none) records j) :
    Tidy (n + 1, some records.length) (records ++ [.fresh])
      (j ++ [.launched (.ok records.length)]) := by
  have h' := h.entry (e := .launched (.ok records.length)) (by simp) (by simp)
  have length : records.length = n := h.launched
  -- A record is an old one, or that of the new session.
  have cases {i : Nat} {r : SessionRecord} (hr : (records ++ [.fresh])[i]? = some r) :
      i < records.length ∧ records[i]? = some r ∨ i = records.length ∧ r = .fresh := by
    rw [List.getElem?_append] at hr
    split at hr
    case isTrue old => exact .inl ⟨old, hr⟩
    case isFalse new =>
      obtain ⟨bound, rfl⟩ := List.getElem?_eq_some_iff.mp hr
      rw [List.length_singleton] at bound
      exact .inr ⟨by omega, by simp⟩
  refine ⟨by simp [length], ?_, ?_, ?_, ?_, ?_, h'.quiet⟩
  · rintro i ⟨⟩
    rw [length]
  · intro i r hr
    rcases cases hr with ⟨old, hr⟩ | ⟨rfl, rfl⟩
    · have other : some records.length ≠ some i := by simpa using (Nat.ne_of_lt old).symm
      rw [h.closes i r hr, if_neg other, if_neg (by simp)]
    · rw [if_pos rfl]
      rfl
  · intro i r hr
    rcases cases hr with ⟨_, hr⟩ | ⟨rfl, rfl⟩
    · exact h'.calls i r hr
    · -- Nothing was recorded on a session before it was launched.
      refine (List.filterMap_eq_nil_iff.mpr fun e he => ?_).symm
      unfold Entry.recordedOn?
      split
      case h_1 i c =>
        rw [if_neg]
        rintro rfl
        exact absurd (h'.known _ c he) (Nat.lt_irrefl _)
      case h_2 => rfl
  · intro i c hc
    have old := h'.known i c hc
    rw [List.length_append]
    omega
  · intro i part hc
    have old := (h'.closed i part hc).1
    refine ⟨by rw [List.length_append]; omega, ?_⟩
    simpa using (Nat.ne_of_lt old).symm

/-- The records after one of them changed. -/
theorem getElem?_modify_some {f : SessionRecord → SessionRecord} {i : Nat} {r : SessionRecord}
    (h : (records.modify index f)[i]? = some r) :
    ∃ r', records[i]? = some r' ∧ r = if index = i then f r' else r' := by
  rw [List.getElem?_modify] at h
  obtain ⟨r', hr', rfl⟩ := Option.map_eq_some_iff.mp h
  exact ⟨r', hr', by split <;> rfl⟩

/-- A call to the page of the session in use. -/
theorem call (h : Tidy (n, some index) records j) (c : PageCall) :
    Tidy (n, some index) (records.modify index (SessionRecord.called c))
      (j ++ [.called index c none]) where
  launched := by simpa using h.launched
  last := h.last
  closes i r hr := by
    obtain ⟨r', hr', rfl⟩ := getElem?_modify_some hr
    rw [← h.closes i r' hr']
    split <;> rfl
  calls i r hr := by
    obtain ⟨r', hr', rfl⟩ := getElem?_modify_some hr
    rw [List.filterMap_append, ← h.calls i r' hr']
    split
    case isTrue this => simp [this, Entry.recordedOn?, SessionRecord.called]
    case isFalse other => simp [other, Entry.recordedOn?]
  known i c' hc := by
    rw [List.length_modify]
    rcases List.mem_append.mp hc with early | now
    · exact h.known i c' early
    · have last := h.last index rfl
      have length := h.launched
      obtain ⟨rfl, _⟩ : i = index ∧ c' = c := by simpa using now
      dsimp only at length last
      omega
  closed i part hc := by
    rw [List.length_modify]
    rcases List.mem_append.mp hc with early | now
    · exact h.closed i part early
    · simp at now
  quiet := by
    refine List.pairwise_append.mpr ⟨h.quiet, List.pairwise_singleton .., ?_⟩
    rintro _ he later hl i part c' rfl
    -- The session in use was not closed so far.
    have notInUse := (h.closed i part he).2
    rw [List.mem_singleton.mp hl]
    rintro ⟨⟩
    exact notInUse rfl

/-- The end of the session in use. -/
theorem teardown (h : Tidy (n, some index) records j) :
    Tidy (n, none)
      (((records.modify index (SessionRecord.closed .page)).modify index
        (SessionRecord.closed .context)).modify index (SessionRecord.closed .process))
      (j ++ [.closed index .page, .closed index .context, .closed index .process]) where
  launched := by simpa using h.launched
  last := by simp
  -- In use, it was not closed before.
  closes i r hr := by
    obtain ⟨r₂, hr₂, rfl⟩ := getElem?_modify_some hr
    obtain ⟨r₁, hr₁, rfl⟩ := getElem?_modify_some hr₂
    obtain ⟨r₀, hr₀, rfl⟩ := getElem?_modify_some hr₁
    have closes := h.closes i r₀ hr₀
    by_cases this : index = i
    · simp only [this, if_true] at closes ⊢
      simp [SessionRecord.closed, closes]
    · simpa [this] using closes
  calls i r hr := by
    obtain ⟨r₂, hr₂, rfl⟩ := getElem?_modify_some hr
    obtain ⟨r₁, hr₁, rfl⟩ := getElem?_modify_some hr₂
    obtain ⟨r₀, hr₀, rfl⟩ := getElem?_modify_some hr₁
    have none : ([.closed index .page, .closed index .context, .closed index .process] :
      List Entry).filterMap (Entry.recordedOn? i) = [] := rfl
    rw [List.filterMap_append, none, List.append_nil, ← h.calls i r₀ hr₀]
    split <;> rfl
  known i c hc := by
    rcases List.mem_append.mp hc with early | now
    · simpa using h.known i c early
    · simp at now
  closed i part hc := by
    rcases List.mem_append.mp hc with early | now
    · simpa using (h.closed i part early).1
    · have last := h.last index rfl
      have length := h.launched
      have this : i = index := by
        simp only [List.mem_cons, Entry.closed.injEq, List.not_mem_nil, or_false] at now
        rcases now with ⟨this, _⟩ | ⟨this, _⟩ | ⟨this, _⟩ <;> exact this
      dsimp only at length last
      simp only [List.length_modify]
      exact ⟨by omega, by simp⟩
  quiet := by
    refine List.pairwise_append.mpr ⟨h.quiet, by simp, ?_⟩
    intro earlier _ later hl i part c _ called
    simp [called] at hl

end Tidy

/-! ## The browser of a world -/

namespace World

/-- A step of the browser starts from the records that there are. -/
theorem step_run (f : ScriptedBrowser → α × ScriptedBrowser) (w : World) :
    ∃ b : ScriptedBrowser, b.records = w.browser.records ∧
      (World.step f).run w = ((f b).1, ⟨(f b).2, w.schedule.tail⟩) :=
  ⟨_, w.browser.records_disturbed (w.schedule.headD []), rfl⟩

/-- A look at the browser leaves the records alone. -/
theorem step_look (f : ScriptedBrowser → α) (w : World) :
    ((World.step fun b => (f b, b)).run w).2.browser.records = w.browser.records := by
  obtain ⟨b, same, run⟩ := step_run (fun b => (f b, b)) w
  rw [run]
  exact same

/-- A call either fails, and leaves the records alone, or adds to the record of the session. -/
theorem call_run (index : Nat) (c : PageCall) (w : World) :
    (errorOf? ((World.backend.call index c).run w).1 ≠ none ∧
      ((World.backend.call index c).run w).2.browser.records = w.browser.records) ∨
    (errorOf? ((World.backend.call index c).run w).1 = none ∧
      ((World.backend.call index c).run w).2.browser.records =
        w.browser.records.modify index (SessionRecord.called c)) := by
  let w₁ := ((World.step fun b => (b.delay, b)).run w).2
  have waited : ((pure () : StateM World Unit).run
    ((World.step fun b => (b.delay, b)).run w).2).2 = w₁ := rfl
  have before : w₁.browser.records = w.browser.records := step_look _ w
  obtain ⟨b, same, step⟩ := step_run (fun b => b.call index c) w₁
  have records := b.call_records index c
  rw [same, before] at records
  unfold World.backend ScriptedBrowser.backend
  dsimp only
  rw [run_andThen, run_andThen, run_andThen, waited, step]
  cases answer : (b.call index c).1 with
  | error e =>
    rw [answer] at records
    exact .inl ⟨by simp [errorOf?], records⟩
  | ok _ =>
    rw [answer] at records
    have replied := step_look fun b => (Except.ok (b.reply c) : Except BrowserError c.Answer)
    exact .inr ⟨rfl, (replied _).trans records⟩

/-- A part is closed, amid disturbances. -/
theorem close_run (index : Nat) (part : SessionPart) (w : World) :
    ((World.backend.close index part).run w).2.browser.records =
      w.browser.records.modify index (SessionRecord.closed part) := by
  obtain ⟨b, same, run⟩ := step_run (fun b => b.close index part) w
  show ((World.step fun b => b.close index part).run w).2.browser.records = _
  rw [run, ← same]
  exact b.close_records index part

/-- **A world keeps its sessions tidy** as long as it is used in order. -/
theorem keeps_tidy :
    World.backend.journaled.Keeps fun held w j => Tidy held w.browser.records j where
  launch := by
    intro n w j h
    obtain ⟨b, same, run⟩ := step_run ScriptedBrowser.launch w
    have launched := b.launch_records
    refine Journaled.ensures_journal_of_run fun answer w' launch => ?_
    obtain ⟨rfl, rfl⟩ := Prod.mk.inj (run.symm.trans launch)
    cases answer : b.launch.1 with
    | error e =>
      simp only [answer] at launched ⊢
      rw [launched, same]
      exact h.entry (by simp) (by simp)
    | ok index =>
      simp only [answer] at launched ⊢
      rw [launched.2, launched.1, same]
      exact h.launch
  isUsable index := by
    intro w j h
    show Tidy _ ((World.step fun b => (b.isUsable index, b)).run w).2.browser.records (j ++ [])
    rw [step_look, List.append_nil]
    exact h
  page n index := by
    refine ⟨fun c w j h => ?_, fun w j h => ?_, fun w j h => ?_, fun milliseconds w j h => ?_⟩
    · show Tidy _ ((World.backend.call index c).run w).2.browser.records
        (j ++ [.called index c (errorOf? ((World.backend.call index c).run w).1)])
      rcases call_run index c w with ⟨failed, records⟩ | ⟨ok, records⟩
      · rw [records]
        exact h.entry (by simp [failed]) (by simp)
      · rw [records, ok]
        exact h.call c
    · show Tidy _ ((World.step fun b => (_, b)).run w).2.browser.records (j ++ [])
      rw [step_look, List.append_nil]
      exact h
    · show Tidy _ w.browser.records (j ++ [])
      rwa [List.append_nil]
    · exact h.entry (by simp) (by simp)
  teardown := by
    intro n index w j h
    have closed {part : SessionPart} {w w' : World} {answer : Except BrowserError Unit}
        (run : (World.backend.close index part).run w = (answer, w')) :
        w'.browser.records = w.browser.records.modify index (SessionRecord.closed part) := by
      rw [← close_run index part w, run]
    refine Journaled.ensures_journal_of_run fun _ w₁ page => ?_
    refine Journaled.ensures_journal_of_run fun _ w₂ context => ?_
    refine Journaled.ensures_journal_of_run fun _ w₃ process => ?_
    rw [closed process, closed context, closed page]
    exact h.teardown
  watch index generation := by
    intro w j h
    show Tidy _ w.browser.records (j ++ [])
    rwa [List.append_nil]

end World

/-! ## Everything that happens -/

/-- What happens to a session and its browser. An operation holds the lock from beginning to end, amid
the disturbances of a schedule. -/
inductive Happening where
  | acquire (schedule : List (List Disturbance))
  | perform (config : BrowserConfig) (a : BrowserAction) (schedule : List (List Disturbance))
  | shutdown (schedule : List (List Disturbance))
  | disturbance (d : Disturbance)
  | observer (generation : Nat)

/-- A session with its browser, and the journal of all that the browser was asked for. -/
structure System where
  state : SessionState
  browser : ScriptedBrowser
  journal : List Entry

namespace System

/-- Nothing has happened yet. -/
def start : System := ⟨.start, .fresh, []⟩

/-- The system after an operation. -/
def operated (S : System) (schedule : List (List Disturbance)) (x : Managed (Journaled World) α) :
    System :=
  let ran := (x.run S.state).run.run ⟨S.browser, schedule⟩
  ⟨ran.1.1.2, ran.2.browser, S.journal ++ ran.1.2⟩

/-- The system after something happened. -/
def step [Web.Library] (S : System) : Happening → System
  | .acquire schedule => S.operated schedule World.backend.journaled.acquire
  | .perform config a schedule => S.operated schedule (World.backend.journaled.perform id config a)
  | .shutdown schedule => S.operated schedule World.backend.journaled.shutdown
  | .disturbance d => { S with browser := d.apply S.browser }
  | .observer generation => { S with state := S.state.observe generation }

/-- The system after a number of things happened. -/
def run [Web.Library] (S : System) (happenings : List Happening) : System :=
  happenings.foldl step S

/-- The sessions of the system are tidy. -/
def Tidy (S : System) : Prop :=
  Automation.Tidy S.state.holding S.browser.records S.journal

variable {S : System}

/-- An operation that uses the browser in order keeps the sessions tidy. -/
theorem Tidy.operated (h : S.Tidy) {x : Managed (Journaled World) α}
    (keeps : x.Preserves fun held w j => Automation.Tidy held w.browser.records j)
    (schedule : List (List Disturbance)) : (S.operated schedule x).Tidy :=
  keeps S.state ⟨S.browser, schedule⟩ S.journal h

/-- **One step** keeps the sessions tidy. -/
theorem Tidy.step [Web.Library] (h : S.Tidy) (happening : Happening) : (S.step happening).Tidy := by
  have keeps := World.keeps_tidy
  cases happening with
  | acquire schedule => exact h.operated (Browser.acquire_preserves keeps) schedule
  | perform config a schedule => exact h.operated (Browser.perform_preserves keeps config a) schedule
  | shutdown schedule => exact h.operated (Browser.shutdown_preserves keeps) schedule
  | disturbance d =>
    show Automation.Tidy S.state.holding (S.browser.disturbed [d]).records S.journal
    rwa [ScriptedBrowser.records_disturbed]
  | observer generation =>
    show Automation.Tidy (S.state.observe generation).holding S.browser.records S.journal
    unfold SessionState.observe
    split <;> exact h

/-- **Any number of steps** keeps the sessions tidy. -/
theorem Tidy.run [Web.Library] (h : S.Tidy) (happenings : List Happening) :
    (S.run happenings).Tidy := by
  induction happenings generalizing S with
  | nil => exact h
  | cons happening rest ih => exact ih (h.step happening)

end System

end Automation
