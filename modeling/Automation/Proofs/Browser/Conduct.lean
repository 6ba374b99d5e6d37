import Automation.Proofs.Browser.Journal

/-!
# What a session asks of its browser

For any browser, and whatever it answers: what each operation of a session writes to the journal and
makes of the state of the session. One operation after another is described by one lemma each, from
`teardown_ensures` to `attempt_ensures`.
-/

namespace Automation

open Managed

/-! ## Kinds of entries -/

namespace Entry

/-- Whether a session was asked for. -/
def isLaunch : Entry → Bool
  | launched _ => true
  | _ => false

/-- Whether a page was asked to go somewhere. -/
def isGoto : Entry → Bool
  | called _ (.goto _) _ => true
  | _ => false

/-- Whether time was let pass. -/
def isPause : Entry → Bool
  | slept _ => true
  | _ => false

/-- Whether it is between sessions: a launch or a closing. -/
def isBetween : Entry → Bool
  | launched _ => true
  | closed _ _ => true
  | _ => false

/-- Whether it is work on the page of a launched session: a call to it or a pause. -/
def IsWorkOn (index : Nat) : Entry → Prop
  | called i _ _ => i = index
  | slept _ => True
  | _ => False

end Entry

/-! ## Between sessions -/

namespace Browser

variable {σ : Type} (b : Browser (StateM σ)) {s : SessionState} {w : σ}

/-- The journal of tearing down what is in use. -/
structure TearingDown (j : List Entry) : Prop where
  between : ∀ e ∈ j, e.isBetween = true
  launches : j.countP Entry.isLaunch = 0

theorem teardown_ensures :
    b.journaled.teardown.Ensures s w fun _ s' _ j => s' = s.released ∧ TearingDown j := by
  unfold teardown
  refine ensures_bind (ensures_get ?_)
  split
  case h_1 none =>
    refine ensures_pure ⟨?_, by simp, rfl⟩
    cases s
    simp_all [SessionState.released]
  case h_2 index inUse =>
    refine ensures_bind (ensures_modify ?_)
    refine ensures_bind (ensures_ask fun _ w => ?_)
    refine ensures_bind (ensures_ask fun _ w => ?_)
    refine ensures_bind (ensures_ask fun _ w => ?_)
    exact ensures_pure ⟨rfl, by simp [Entry.isBetween], rfl⟩

/-- Asking for the session in use changes nothing. -/
theorem usable?_ensures :
    b.journaled.usable?.Ensures s w fun index s' _ j => s' = s ∧ j = [] ∧
      ∀ i, index = some i → s.current = some i := by
  unfold usable?
  refine ensures_bind (ensures_get ?_)
  split
  case h_1 => exact ensures_pure ⟨rfl, rfl, by simp⟩
  case h_2 i inUse =>
    refine ensures_bind (ensures_ask fun usable w => ?_)
    refine ensures_pure ⟨rfl, rfl, fun i' h => ?_⟩
    split at h
    · exact inUse.trans h
    · cases h

/-- What launching with a number of tries comes to: its answer, the state it leaves and its journal. -/
structure Launching (tries : Nat) (s : SessionState) (answer : Except BrowserError Nat)
    (s' : SessionState) (j : List Entry) : Prop where
  between : ∀ e ∈ j, e.isBetween = true
  launches : j.countP Entry.isLaunch ≤ tries
  later : s.generation ≤ s'.generation
  ready : ∀ g, answer = .ok g → s'.status = .ready ∧ s'.generation = g ∧ s.generation < g
  lost : ∀ e, answer = .error e → s'.status = .disconnected ∨ tries = 0 ∧ s' = s

/-- One try, and then the others. -/
theorem Launching.after {tries : Nat} {s s' : SessionState} {answer : Except BrowserError Nat}
    {j j' : List Entry} {launched : Except BrowserError Nat} (torn : TearingDown j)
    (s₁ : SessionState) (later : s.generation ≤ s₁.generation) (lost : s₁.status = .disconnected)
    (h : Launching tries s₁ answer s' j') :
    Launching (tries + 1) s answer s' (j ++ .launched launched :: j') where
  between e he := by
    rcases List.mem_append.mp he with early | he
    · exact torn.between e early
    · rcases List.mem_cons.mp he with rfl | late
      · rfl
      · exact h.between e late
  launches := by
    have launches := h.launches
    rw [List.countP_append, torn.launches, List.countP_cons_of_pos rfl]
    omega
  later := Nat.le_trans later h.later
  ready g ok := by
    obtain ⟨ready, generation, newer⟩ := h.ready g ok
    exact ⟨ready, generation, by omega⟩
  lost e failed := by
    rcases h.lost e failed with disconnected | ⟨_, rfl⟩
    · exact .inl disconnected
    · exact .inl lost

/-- What launching does, by induction on the tries that are left. -/
theorem launchUsable_ensures (tries : Nat) (last : BrowserError) :
    (b.journaled.launchUsable tries last).Ensures s w fun answer s' _ j =>
      Launching tries s answer s' j := by
  induction tries generalizing last s w with
  | zero => exact ensures_pure ⟨by simp, by simp, Nat.le_refl _, by simp, by simp⟩
  | succ tries ih =>
    unfold launchUsable
    refine ensures_bind (b.teardown_ensures.mono ?_)
    rintro _ _ w j ⟨rfl, torn⟩
    refine ensures_bind (ensures_modify (ensures_bind (ensures_ask fun launched w => ?_)))
    cases launched with
    | error e =>
      -- Nothing is in use now, and the next try starts from there.
      refine Ensures.mono (ih e) fun answer s' w' j' h => ?_
      exact h.after torn (s.released.withStatus .disconnected) (Nat.le_refl _) rfl
    | ok index =>
      refine ensures_bind (ensures_modify (ensures_bind (ensures_get ?_)))
      refine ensures_bind (ensures_ask fun _ w => ?_)
      refine ensures_bind (b.usable?_ensures.mono ?_)
      rintro usable _ w _ ⟨rfl, rfl, _⟩
      let s₁ := (s.released.withStatus .disconnected).adopted index
      cases usable with
      | some _ =>
        -- The session is adopted, and this was the last launch.
        refine ensures_bind (ensures_modify (ensures_pure ?_))
        refine ⟨fun e he => ?_, ?_, Nat.le_succ _, ?_, by simp⟩
        · rcases List.mem_append.mp he with early | now
          · exact torn.between e early
          · rw [List.mem_singleton.mp now]
            rfl
        · rw [List.countP_append, torn.launches]
          exact Nat.succ_le_succ (Nat.zero_le _)
        · rintro _ ⟨⟩
          exact ⟨rfl, rfl, Nat.lt_succ_self _⟩
      | none =>
        -- The session is adopted all the same, and torn down by the next try.
        refine Ensures.mono (ih .unusable) fun answer s' w' j' h => ?_
        exact h.after torn s₁ (Nat.le_succ _) rfl

/-- Asking whether the session is ready changes nothing. -/
theorem isReady_ensures :
    b.journaled.isReady.Ensures s w fun ready s' _ j => s' = s ∧ j = [] ∧
      (ready = true → s.status = .ready) := by
  unfold isReady
  refine ensures_bind (ensures_get ?_)
  split
  case isTrue ready =>
    refine ensures_bind (b.usable?_ensures.mono ?_)
    rintro index _ w _ ⟨rfl, rfl, _⟩
    exact ensures_pure ⟨rfl, rfl, fun _ => ready⟩
  case isFalse => exact ensures_pure ⟨rfl, rfl, by simp⟩

/-- What acquiring the session comes to. -/
structure Acquiring (s : SessionState) (answer : Except BrowserError Nat) (s' : SessionState)
    (j : List Entry) : Prop where
  between : ∀ e ∈ j, e.isBetween = true
  launches : j.countP Entry.isLaunch ≤ 2
  later : s.generation ≤ s'.generation
  ready : ∀ g, answer = .ok g →
    s'.status = .ready ∧ s'.generation = g ∧ (s.status ≠ .ready → s.generation < g)
  lost : ∀ e, answer = .error e → s'.status = .disconnected

theorem acquire_ensures :
    b.journaled.acquire.Ensures s w fun answer s' _ j => Acquiring s answer s' j := by
  unfold acquire
  refine ensures_bind (b.isReady_ensures.mono ?_)
  rintro ready _ w _ ⟨rfl, rfl, isReady⟩
  split
  case isTrue ready =>
    refine ensures_bind (ensures_get (ensures_pure ?_))
    refine ⟨by simp, by simp, Nat.le_refl _, ?_, by simp⟩
    rintro _ ⟨⟩
    exact ⟨isReady ready, rfl, fun notReady => absurd (isReady ready) notReady⟩
  case isFalse =>
    refine (b.launchUsable_ensures 2 .unusable).mono fun answer s' w' j h => ?_
    refine ⟨h.between, h.launches, h.later, fun g ok => ?_, fun e failed => ?_⟩
    · obtain ⟨ready, generation, newer⟩ := h.ready g ok
      exact ⟨ready, generation, fun _ => newer⟩
    · rcases h.lost e failed with lost | ⟨none, _⟩
      · exact lost
      · cases none

/-! ## On a page -/

variable {config : BrowserConfig} {a : BrowserAction} {index : Nat}

/-- The journal of a navigation that is repeated a number of times, each time after a failure that
allows it and one pause. -/
inductive Navigation (index backoff : Nat) (url : String) : Nat → List Entry → Prop where
  | last (error : Option BrowserError) :
    Navigation index backoff url 0 [.called index (.goto url) error]
  | again {repeats : Nat} {j : List Entry} {e : BrowserError}
    (allowed : e.isNavigationRetryable = true) (rest : Navigation index backoff url repeats j) :
    Navigation index backoff url (repeats + 1)
      (.called index (.goto url) (some e) :: .slept backoff :: j)

theorem Navigation.work {backoff repeats : Nat} {url : String} {j : List Entry}
    (h : Navigation index backoff url repeats j) :
    (∀ e ∈ j, e.IsWorkOn index) ∧ j.countP Entry.isGoto = repeats + 1 := by
  induction h with
  | last error => simp [Entry.IsWorkOn, Entry.isGoto]
  | again _ _ ih =>
    refine ⟨?_, ?_⟩
    · simpa [Entry.IsWorkOn] using ih.1
    · rw [List.countP_cons_of_pos rfl, List.countP_cons_of_neg (by simp [Entry.isGoto]), ih.2]

theorem goto_ensures (backoff : Nat) (url : String) (retries : Nat) :
    (b.journaled.goto index backoff url retries).Ensures w fun _ _ j =>
      ∃ repeats ≤ retries, Navigation index backoff url repeats j := by
  induction retries generalizing w with
  | zero => exact Journaled.ensures_journal fun answer _ => ⟨0, Nat.le_refl _, .last _⟩
  | succ retries ih =>
    unfold goto
    refine Journaled.ensures_bind (Journaled.ensures_journal fun answer w => ?_)
    cases answer with
    | ok status => exact Journaled.ensures_pure ⟨0, Nat.zero_le _, .last none⟩
    | error e =>
      dsimp only
      split
      case isTrue allowed =>
        refine Journaled.ensures_bind (Journaled.ensures_journal fun _ w => ?_)
        refine Journaled.Ensures.mono ih ?_
        rintro _ _ j ⟨repeats, le, navigation⟩
        exact ⟨repeats + 1, Nat.succ_le_succ le, .again allowed navigation⟩
      case isFalse => exact Journaled.ensures_pure ⟨0, Nat.zero_le _, .last (some e)⟩

/-- What an action comes to that does not navigate: it works on one page, does not go anywhere, does
not pause, and succeeds unless it fails with an error. -/
def Still (index : Nat) (answer : Except BrowserError NodeResult) (j : List Entry) : Prop :=
  (∀ e ∈ j, e.IsWorkOn index ∧ e.isGoto = false ∧ e.isPause = false) ∧
    ∀ r, answer = .ok r → r.success = true

/-- A call, and what comes after it. -/
theorem still_call {c : PageCall} {f : c.Answer → ExceptT BrowserError (Journaled σ) NodeResult}
    (notGoto : ∀ url, c ≠ .goto url)
    (rest : ∀ answer w, Journaled.Ensures (f answer).run w fun r _ j => Still index r j) :
    Journaled.Ensures (ExceptT.mk (b.journaled.call index c) >>= f).run w fun r _ j =>
      Still index r j := by
  have entry (error : Option BrowserError) : (Entry.called index c error).IsWorkOn index ∧
      (Entry.called index c error).isGoto = false ∧
      (Entry.called index c error).isPause = false := by
    cases c with
    | goto url => exact absurd rfl (notGoto url)
    | _ => exact ⟨rfl, rfl, rfl⟩
  refine Journaled.ensures_orElse (Journaled.ensures_journal fun answer w => ?_)
  cases answer with
  | error e =>
    refine ⟨fun e' he => ?_, by simp⟩
    rw [List.mem_singleton.mp he]
    exact entry _
  | ok answer =>
    refine (rest answer w).mono fun r _ j h => ⟨fun e' he => ?_, h.2⟩
    rcases List.mem_append.mp he with first | later
    · rw [List.mem_singleton.mp first]
      exact entry _
    · exact h.1 e' later

/-- The end of an action. -/
theorem still_done {r : NodeResult} (h : r.success = true) :
    Journaled.Ensures (pure r : ExceptT BrowserError (Journaled σ) NodeResult).run w fun r _ j =>
      Still index r j := by
  refine Journaled.ensures_pure ⟨by simp, ?_⟩
  rintro _ ⟨⟩
  exact h

/-- What an action on a page comes to: a navigation goes to its address, again a bounded number of
times, and any other action does not go anywhere. -/
structure Working [Web.Library] (config : BrowserConfig) (a : BrowserAction) (index : Nat)
    (answer : Except BrowserError NodeResult) (j : List Entry) : Prop where
  work : ∀ e ∈ j, e.IsWorkOn index
  navigation : a.action = .navigate → ∀ url, normalizeUrl (a.url.getD "") = .ok url →
    ∃ repeats ≤ config.maxNavigationRetries,
      Navigation index config.navigationBackoffMs url repeats j
  still : a.action ≠ .navigate → ∀ e ∈ j, e.isGoto = false ∧ e.isPause = false
  success : ∀ r, answer = .ok r → r.success = true

theorem withNavigationStatus_success (status : Option Nat) (r : NodeResult) :
    (withNavigationStatus status r).success = r.success := by
  unfold withNavigationStatus
  cases status with
  | none => rfl
  | some code =>
    dsimp only
    split <;> rfl

/-- What navigating does. The title and the address are read afterwards. -/
theorem navigate_ensures (url : String) :
    Journaled.Ensures (b.journaled.navigate config index url).run w fun answer _ j =>
      (∃ repeats ≤ config.maxNavigationRetries,
        Navigation index config.navigationBackoffMs url repeats j) ∧
      ∀ r, answer = .ok r → r.success = true := by
  unfold navigate
  refine Journaled.ensures_orElse ((b.goto_ensures _ url _).mono fun answer w j navigation => ?_)
  cases answer with
  | error e => exact ⟨navigation, by simp⟩
  | ok status =>
    refine Journaled.ensures_orElse (Journaled.ensures_journal fun title w => ?_)
    cases title with
    | error e =>
      dsimp only
      rw [List.append_nil]
      exact ⟨navigation, by simp⟩
    | ok title =>
      refine Journaled.ensures_orElse (Journaled.ensures_journal fun reached w => ?_)
      cases reached with
      | error e =>
        dsimp only
        rw [List.nil_append, List.append_nil]
        exact ⟨navigation, by simp⟩
      | ok reached =>
        refine Journaled.ensures_pure ?_
        simp only [List.append_nil]
        refine ⟨navigation, ?_⟩
        rintro _ ⟨⟩
        rw [withNavigationStatus_success]
        rfl

/-- What an action on a page does. -/
theorem execute_ensures [Web.Library] :
    Journaled.Ensures (b.journaled.execute config a index).run w fun answer _ j =>
      Working config a index answer j := by
  have still {answer : Except BrowserError NodeResult} {j : List Entry}
      (other : a.action ≠ .navigate) (h : Still index answer j) :
      Working config a index answer j :=
    ⟨fun e he => (h.1 e he).1, fun navigate => absurd navigate other, fun _ e he => (h.1 e he).2, h.2⟩
  unfold execute
  cases action : a.action with
  | navigate =>
    refine Journaled.ensures_given (fun e invalid => ?_) fun url normalized => ?_
    · exact ⟨by simp, by simp [invalid], by simp [action], by simp⟩
    · refine (b.navigate_ensures url).mono ?_
      rintro answer _ j ⟨navigation, success⟩
      refine ⟨?_, fun _ url' same => ?_, by simp [action], success⟩
      · obtain ⟨_, _, navigation⟩ := navigation
        exact navigation.work.1
      · obtain rfl := Except.ok.inj (normalized.symm.trans same)
        exact navigation
  | click | type | select | extractData =>
    refine Journaled.Ensures.mono ?_ fun _ _ _ => still (by simp [action])
    refine b.still_call (by simp) fun _ w => b.still_call (by simp) fun _ w => still_done rfl
  | waitForSelector | screenshot =>
    refine Journaled.Ensures.mono ?_ fun _ _ _ => still (by simp [action])
    exact b.still_call (by simp) fun _ w => still_done rfl
  | waitForNavigation =>
    refine Journaled.Ensures.mono ?_ fun _ _ _ => still (by simp [action])
    refine b.still_call (by simp) fun _ w => ?_
    refine Journaled.ensures_orElse (Journaled.ensures_journal fun url w => ?_)
    cases url with
    | error e => exact ⟨by simp, by simp⟩
    | ok url => exact still_done rfl

/-! ## Attempts -/

/-- What an attempt comes to: first the session is acquired, then there may be work on the page of the
session in use. If it was not ready before, that is a later session. -/
structure Attempting [Web.Library] (config : BrowserConfig) (a : BrowserAction) (s : SessionState)
    (outcome : Except BrowserError NodeResult) (s' : SessionState) (opening work : List Entry) :
    Prop where
  between : ∀ e ∈ opening, e.isBetween = true
  launches : opening.countP Entry.isLaunch ≤ 2
  later : s.generation ≤ s'.generation
  working : work ≠ [] → ∃ index, s'.current = some index ∧ Working config a index outcome work ∧
    (s.status ≠ .ready → s.generation < s'.generation)
  success : ∀ r, outcome = .ok r → r.success = true

theorem Acquiring.attempting [Web.Library] {answer : Except BrowserError Nat} {s' : SessionState}
    {j : List Entry} (h : Acquiring s answer s' j) (e : BrowserError) :
    Attempting config a s (.error e) s' j [] :=
  ⟨h.between, h.launches, h.later, by simp, by simp⟩

/-- What an attempt does. -/
theorem attempt_ensures [Web.Library] (config : BrowserConfig) (a : BrowserAction) :
    (b.journaled.attempt config a).Ensures s w fun outcome s' _ j =>
      ∃ opening work, j = opening ++ work ∧ Attempting config a s outcome s' opening work := by
  unfold attempt
  refine ensures_bind (b.acquire_ensures.mono fun answer s' w j h => ?_)
  cases answer with
  | error e => exact ensures_pure ⟨j, [], rfl, h.attempting e⟩
  | ok generation =>
    refine ensures_bind (b.usable?_ensures.mono ?_)
    rintro usable _ w _ ⟨rfl, rfl, inUse⟩
    cases usable with
    | none => exact ensures_pure ⟨j, [], rfl, h.attempting _⟩
    | some index =>
      -- Acquired as ready, the session is that of the generation that was answered.
      refine ensures_lift (b.execute_ensures.mono fun outcome w work working => ?_)
      refine ⟨j, work, rfl, h.between, h.launches, h.later, fun _ => ?_, working.success⟩
      obtain ⟨_, rfl, newer⟩ := h.ready generation rfl
      exact ⟨index, inUse index rfl, working, newer⟩

end Browser

end Automation
