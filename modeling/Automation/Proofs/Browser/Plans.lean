import Automation.Proofs.Browser.Lifecycle
import Automation.Proofs.Browser.Retries
import Automation.Web.Standard

/-!
# Actions are done on one session

The plan of an action is the calls to a page that it consists of. An action that succeeds has its
whole plan recorded on the session that it leaves in use, in order. A try that lost its session
before leaves there the beginning of the plan at most, and not all of it
(`performed_on_one_session`): a success is never put together from halves on two sessions.

What one attempt records is known for any browser whose pages tell their address and title
(`attempt_shares`). Each retry comes to a later session, so that the tries of an action do not mix
(`Retrying.single`).
-/

namespace Automation

open Browser Managed

/-! ## Plans -/

/-- The calls to a page that the action consists of, in order. -/
def BrowserAction.plan [Web.Library] (a : BrowserAction) : List PageCall :=
  match a.action with
  | .navigate =>
    match normalizeUrl (a.url.getD "") with
    | .ok url => [.goto url]
    | .error _ => []
  | .click => [.waitFor a.selectorText, .click a.selectorText]
  | .type => [.waitFor a.selectorText, .fill a.selectorText a.inputText]
  | .select => [.waitFor a.selectorText, .choose a.selectorText a.inputText]
  | .waitForSelector => [.waitFor a.selectorText]
  | .waitForNavigation => [.waitForNavigation]
  | .screenshot => [.screenshot (a.optionFlag "fullPage")]
  | .extractData =>
    [.waitFor a.selectorText, .extract a.selectorText (a.optionFlag "textOnly")]

/-- A valid action calls a page. -/
theorem BrowserAction.plan_ne_nil [Web.Library] {a : BrowserAction} (valid : a.validate = .ok ()) :
    a.plan ≠ [] := by
  unfold plan
  cases action : a.action with
  | navigate =>
    obtain ⟨url, normalized⟩ := a.normalizeUrl_of_valid valid action
    simp [normalized]
  | _ => simp

/-- The calls that a journal shows to be recorded on a session. -/
def recordedOn (i : Nat) (j : List Entry) : List PageCall :=
  j.filterMap (Entry.recordedOn? i)

theorem recordedOn_append (i : Nat) (j j' : List Entry) :
    recordedOn i (j ++ j') = recordedOn i j ++ recordedOn i j' :=
  List.filterMap_append

/-- A journal shows calls to be recorded on one session, and none on any other. -/
def OnlyOn (index : Nat) (calls : List PageCall) (j : List Entry) : Prop :=
  ∀ i, recordedOn i j = if i = index then calls else []

namespace OnlyOn

variable {index : Nat} {calls calls' : List PageCall} {j j' : List Entry}

theorem append (h : OnlyOn index calls j) (h' : OnlyOn index calls' j') :
    OnlyOn index (calls ++ calls') (j ++ j') := by
  intro i
  rw [recordedOn_append, h i, h' i]
  split <;> rfl

/-- Entries that record nothing. -/
theorem none (h : ∀ e ∈ j, ∀ i, e.recordedOn? i = .none) : OnlyOn index [] j := by
  intro i
  rw [ite_self]
  exact List.filterMap_eq_nil_iff.mpr fun e he => h e he i

/-- Entries from between the work on a page record nothing. -/
theorem between (h : ∀ e ∈ j, e.isBetween = true) : OnlyOn index [] j := by
  refine .none fun e mem i => ?_
  have between := h e mem
  cases e <;> first | rfl | cases between

theorem here (h : OnlyOn index calls j) : recordedOn index j = calls := by
  rw [h index, if_pos rfl]

theorem elsewhere (h : OnlyOn index calls j) {i : Nat} (other : i ≠ index) :
    recordedOn i j = [] := by
  rw [h i, if_neg other]

/-- What is recorded somewhere is recorded there. -/
theorem eq_of_ne_nil (h : OnlyOn index calls j) {i : Nat} (some : recordedOn i j ≠ []) :
    i = index ∧ calls ≠ [] := by
  by_cases same : i = index
  · subst same
    exact ⟨rfl, h.here ▸ some⟩
  · exact absurd (h.elsewhere same) some

end OnlyOn

/-- What is recorded of a plan, by the outcome: all of it, or else a beginning that is not all. -/
def Fulfills (plan calls : List PageCall) : Except ε α → Prop
  | .ok _ => calls = plan
  | .error _ => calls <+: plan ∧ calls ≠ plan

/-- A beginning of the first part of a plan is a beginning of the plan. -/
theorem Fulfills.early {plan calls : List PageCall} {e : ε}
    (h : Fulfills plan calls (.error e : Except ε α)) (more : List PageCall) :
    Fulfills (plan ++ more) calls (.error e : Except ε β) := by
  obtain ⟨beginning, notAll⟩ := h
  refine ⟨beginning.trans (List.prefix_append plan more), ?_⟩
  rintro rfl
  have length := beginning.length_le
  rw [List.length_append] at length
  have none : more = [] := List.eq_nil_of_length_eq_zero (by omega)
  exact notAll (by rw [none, List.append_nil])

/-- What comes behind the first part of a plan. -/
theorem Fulfills.late {plan calls : List PageCall} {answer : Except ε α}
    (h : Fulfills plan calls answer) (first : List PageCall) :
    Fulfills (first ++ plan) (first ++ calls) answer := by
  cases answer with
  | ok a => exact congrArg (first ++ ·) h
  | error e =>
    obtain ⟨beginning, notAll⟩ := h
    exact ⟨(List.prefix_append_right_inj first).mpr beginning,
      fun all => notAll (List.append_cancel_left all)⟩

/-- Of a plan of one call nothing is recorded if that fails. -/
theorem Fulfills.eq_nil {c : PageCall} {calls : List PageCall} {e : ε}
    (h : Fulfills [c] calls (.error e : Except ε α)) : calls = [] := by
  obtain ⟨beginning, notAll⟩ := h
  cases calls with
  | nil => rfl
  | cons c' rest => exact absurd (beginning.eq_of_length_le (by simp)) notAll

/-! ## On a page -/

/-- The pages of a browser tell their address and their title. -/
structure Browser.Legible (b : Browser (StateM σ)) : Prop where
  url : ∀ index w, ∃ u, ((b.url index).run w).1 = .ok u
  title : ∀ index w, ∃ t, ((b.title index).run w).1 = .ok t

section Page

variable {σ : Type} (b : Browser (StateM σ)) {index : Nat} {w : σ}

/-- A computation on a page records a plan there, as far as it comes. -/
def Carries (index : Nat) (plan : List PageCall) (x : ExceptT BrowserError (Journaled σ) α) :
    Prop :=
  ∀ w, Journaled.Ensures x.run w fun answer _ j =>
    ∃ calls, OnlyOn index calls j ∧ Fulfills plan calls answer

theorem carries_pure (a : α) :
    Carries index [] (pure a : ExceptT BrowserError (Journaled σ) α) := fun _ =>
  Journaled.ensures_pure ⟨[], .none (by simp), rfl⟩

/-- One part of a plan after another. -/
theorem carries_bind {plan plan' : List PageCall} {x : ExceptT BrowserError (Journaled σ) α}
    {f : α → ExceptT BrowserError (Journaled σ) β} (hx : Carries index plan x)
    (hf : ∀ a, Carries index plan' (f a)) : Carries index (plan ++ plan') (x >>= f) := by
  intro w
  refine Journaled.ensures_orElse ((hx w).mono ?_)
  rintro answer w j ⟨calls, only, fulfills⟩
  cases answer with
  | error e => exact ⟨calls, only, fulfills.early plan'⟩
  | ok a =>
    refine (hf a w).mono ?_
    rintro answer w' j' ⟨calls', only', fulfills'⟩
    obtain rfl : calls = plan := fulfills
    exact ⟨calls ++ calls', only.append only', fulfills'.late calls⟩

/-- A call is recorded unless it fails. -/
theorem carries_call (c : PageCall) :
    Carries index [c] (ExceptT.mk (b.journaled.call index c)) := by
  refine fun w => Journaled.ensures_journal fun answer w => ?_
  cases answer with
  | error e =>
    exact ⟨[], .none (by simp [Entry.recordedOn?, errorOf?]), List.nil_prefix, by simp⟩
  | ok answer =>
    refine ⟨[c], fun i => ?_, rfl⟩
    by_cases this : i = index
    · simp [this, recordedOn, Entry.recordedOn?, errorOf?]
    · simp [this, Ne.symm this, recordedOn, Entry.recordedOn?, errorOf?]

/-- A look that does not fail records nothing. -/
theorem carries_look {x : StateM σ (Except BrowserError α)}
    (tells : ∀ w, ∃ a, (x.run w).1 = .ok a) :
    Carries index [] (ExceptT.mk (journal x fun _ => [])) := by
  refine fun w => Journaled.ensures_journal_of_run fun answer w' run => ?_
  obtain ⟨a, told⟩ := tells w
  obtain rfl : answer = .ok a := by rw [← told, run]
  exact ⟨[], .none (by simp), rfl⟩

/-- Going to an address is recorded once, however often it is tried. -/
theorem carries_goto (backoff : Nat) (url : String) (retries : Nat) :
    Carries index [.goto url] (ExceptT.mk (b.journaled.goto index backoff url retries)) := by
  induction retries with
  | zero => exact carries_call b (.goto url)
  | succ retries ih =>
    intro w
    unfold goto
    refine Journaled.ensures_bind ((carries_call b (.goto url) w).mono ?_)
    rintro answer w j ⟨calls, only, fulfills⟩
    cases answer with
    | ok status =>
      refine Journaled.ensures_pure ?_
      rw [List.append_nil]
      exact ⟨calls, only, fulfills⟩
    | error e =>
      dsimp only
      split
      case isFalse =>
        refine Journaled.ensures_pure ?_
        rw [List.append_nil]
        exact ⟨calls, only, fulfills⟩
      case isTrue =>
        -- What failed was not recorded.
        obtain rfl := fulfills.eq_nil
        refine Journaled.ensures_bind (Journaled.ensures_journal fun _ w => ?_)
        refine (ih w).mono ?_
        rintro answer w j' ⟨calls, only', fulfills⟩
        have slept : OnlyOn index [] [.slept backoff] := .none (by simp [Entry.recordedOn?])
        exact ⟨calls, only.append (slept.append only'), fulfills⟩

variable {b}

/-- A valid action records its plan on the page, as far as it comes. -/
theorem carries_execute [Web.Library] (legible : b.Legible) (config : BrowserConfig)
    {a : BrowserAction} (valid : a.validate = .ok ()) :
    Carries index a.plan (b.journaled.execute config a index) := by
  unfold execute BrowserAction.plan
  cases action : a.action with
  | navigate =>
    obtain ⟨url, normalized⟩ := a.normalizeUrl_of_valid valid action
    rw [normalized]
    refine carries_bind (carries_goto b _ url _) fun status => ?_
    refine carries_bind (carries_look (legible.title index)) fun title => ?_
    exact carries_bind (carries_look (legible.url index)) fun reached => carries_pure _
  | click | type | select | extractData =>
    exact carries_bind (carries_call b _) fun _ =>
      carries_bind (carries_call b _) fun _ => carries_pure _
  | waitForSelector | screenshot =>
    exact carries_bind (carries_call b _) fun _ => carries_pure _
  | waitForNavigation =>
    refine carries_bind (carries_call b _) fun _ => ?_
    exact carries_bind (carries_look (legible.url index)) fun _ => carries_pure _

end Page

/-! ## Attempts -/

section Attempts

variable {σ : Type} {b : Browser (StateM σ)} {config : BrowserConfig} {a : BrowserAction}

/-- What an attempt records: calls on one session, as many of the plan as its outcome tells. If
there are any, the attempt leaves that session in use, and if it started from a session that was not
ready, that is a later one. -/
structure Share (plan : List PageCall) (s : SessionState) (outcome : Except BrowserError NodeResult)
    (s' : SessionState) (j : List Entry) (index : Nat) (calls : List PageCall) : Prop where
  only : OnlyOn index calls j
  fulfills : Fulfills plan calls outcome
  inUse : calls ≠ [] → s'.current = some index
  newer : calls ≠ [] → s.status ≠ .ready → s.generation < s'.generation

/-- What an attempt that comes to no page records. -/
theorem Share.none {plan : List PageCall} {s s' : SessionState} {j : List Entry}
    (planned : plan ≠ []) (between : ∀ e ∈ j, e.isBetween = true) (e : BrowserError) :
    Share plan s (.error e) s' j 0 [] where
  only := .between between
  fulfills := ⟨List.nil_prefix, planned.symm⟩
  inUse := absurd rfl
  newer := absurd rfl

/-- **What an attempt records** is as much of the plan as its outcome tells, on one session. -/
theorem attempt_shares [Web.Library] (legible : b.Legible) (valid : a.validate = .ok ())
    (s : SessionState) (w : σ) :
    (b.journaled.attempt config a).Ensures s w fun outcome s' _ j =>
      ∃ index calls, Share a.plan s outcome s' j index calls := by
  have planned := BrowserAction.plan_ne_nil valid
  unfold attempt
  refine ensures_bind (b.acquire_ensures.mono fun answer s' w j h => ?_)
  cases answer with
  | error e => exact ensures_pure ⟨0, [], .none planned (by simpa using h.between) e⟩
  | ok generation =>
    refine ensures_bind (b.usable?_ensures.mono ?_)
    rintro usable _ w _ ⟨rfl, rfl, inUse⟩
    cases usable with
    | none => exact ensures_pure ⟨0, [], .none planned (by simpa using h.between) _⟩
    | some index =>
      refine ensures_lift ((carries_execute legible config valid w).mono ?_)
      rintro outcome w work ⟨calls, only, fulfills⟩
      obtain ⟨-, rfl, newer⟩ := h.ready generation rfl
      -- Nothing is recorded before the work on the page begins.
      have opening : OnlyOn index [] j := .between h.between
      have whole : OnlyOn index calls (j ++ ([] ++ work)) := opening.append only
      exact ⟨index, calls, whole, fulfills, fun _ => inUse index rfl, fun _ => newer⟩

end Attempts

/-! ## Tries -/

/-- **What is recorded with a success**, of a plan: all of it on one session, that is in use then,
and on others, which are older, a beginning that is not all. On no session that is older than the
start anything is recorded, if that was not ready. -/
structure Single (plan : List PageCall) (s s' : SessionState) (j : List Entry) (index : Nat) :
    Prop where
  inUse : s'.current = some index
  whole : recordedOn index j = plan
  older : ∀ i, i ≠ index → recordedOn i j ≠ [] →
    i < index ∧ recordedOn i j <+: plan ∧ recordedOn i j ≠ plan
  later : s.status ≠ .ready → ∀ i, recordedOn i j ≠ [] → s.generation ≤ i

section Tries

variable {config : BrowserConfig} {a : BrowserAction}

theorem World.legible : World.backend.Legible :=
  ⟨fun _ _ => ⟨_, rfl⟩, fun _ _ => ⟨_, rfl⟩⟩

namespace Try

variable {t : Try World}

/-- What an attempt in a world records. -/
theorem Made.share [Web.Library] (made : t.Made World.backend config a)
    (valid : a.validate = .ok ()) :
    ∃ index calls,
      Share a.plan t.before.1 t.outcome t.after.1 t.journal index calls := by
  have ensured := @attempt_shares _ _ config _ _ World.legible valid t.before.1 t.before.2
  unfold Managed.Ensures Journaled.Ensures at ensured
  rw [made] at ensured
  exact ensured

theorem Made.tidy [Web.Library] (made : t.Made World.backend config a) {j : List Entry}
    (tidy : Tidy t.before.1.holding t.before.2.browser.records j) :
    Tidy t.after.1.holding t.after.2.browser.records (j ++ t.journal) := by
  have ensured := attempt_preserves World.keeps_tidy config a t.before.1 t.before.2 j tidy
  unfold Managed.Ensures Journaled.Ensures at ensured
  rw [made] at ensured
  exact ensured

end Try

/-- The last try is the only one that records anything, unless others did before. -/
theorem Share.single {plan : List PageCall} {s s' : SessionState} {j : List Entry} {index : Nat}
    {calls : List PageCall} {r : NodeResult} (h : Share plan s (.ok r) s' j index calls)
    (planned : plan ≠ []) (last : ∀ i, s'.current = some i → i + 1 = s'.generation) :
    Single plan s s' j index := by
  obtain rfl : calls = plan := h.fulfills
  refine ⟨h.inUse planned, h.only.here, fun i other recorded => ?_, fun notReady i recorded => ?_⟩
  · exact absurd (h.only.eq_of_ne_nil recorded).1 other
  · obtain ⟨rfl, -⟩ := h.only.eq_of_ne_nil recorded
    have this := last i (h.inUse planned)
    have newer := h.newer planned notReady
    omega

/-- **A try before others** adds the beginning of the plan on a session that is older than theirs. -/
theorem Single.after {plan : List PageCall} {s s₁ s₂ s' : SessionState} {j j' : List Entry}
    {index before : Nat} {calls : List PageCall} {e : BrowserError}
    (h : Single plan s₂ s' j' index) (first : Share plan s (.error e) s₁ j before calls)
    (planned : plan ≠ []) (last : ∀ i, s₁.current = some i → i + 1 = s₁.generation)
    (notReady : s₂.status ≠ .ready) (same : s₂.generation = s₁.generation)
    (later : s.generation ≤ s₁.generation) : Single plan s s' (j ++ j') index := by
  have apart {i : Nat} (recorded : recordedOn i j' ≠ []) : recordedOn i j = [] := by
    by_contra recorded'
    obtain ⟨rfl, called⟩ := first.only.eq_of_ne_nil recorded'
    have this := last i (first.inUse called)
    have least := h.later notReady i recorded
    omega
  have whole := h.whole
  have there : recordedOn index j' ≠ [] := whole ▸ planned
  refine ⟨h.inUse, ?_, fun i other recorded => ?_, fun notReady' i recorded => ?_⟩
  · rw [recordedOn_append, apart there, whole, List.nil_append]
  · rw [recordedOn_append] at recorded ⊢
    by_cases earlier : recordedOn i j = []
    · rw [earlier, List.nil_append] at recorded ⊢
      exact h.older i other recorded
    · -- The first try recorded there, and so none of the others.
      have none : recordedOn i j' = [] := by
        by_contra recorded'
        exact earlier (apart recorded')
      obtain ⟨rfl, called⟩ := first.only.eq_of_ne_nil earlier
      have this := last i (first.inUse called)
      have least := h.later notReady index there
      rw [none, List.append_nil, first.only.here]
      exact ⟨by omega, first.fulfills⟩
  · rw [recordedOn_append] at recorded
    by_cases earlier : recordedOn i j = []
    · rw [earlier, List.nil_append] at recorded
      have least := h.later notReady i recorded
      omega
    · obtain ⟨rfl, called⟩ := first.only.eq_of_ne_nil earlier
      have this := last i (first.inUse called)
      have newer := first.newer called notReady'
      omega

/-- **Tries that end in a success record the plan on one session**, by induction on the chain of the
tries. -/
theorem Retrying.single [Web.Library] (valid : a.validate = .ok ()) {retries : Nat}
    {start : SessionState × World} {tries : List (Try World)}
    (h : Retrying World.backend config a retries start tries) {j : List Entry}
    (tidy : Tidy start.1.holding start.2.browser.records j) {last : Try World} {r : NodeResult}
    (isLast : tries.getLast? = some last) (worked : last.outcome = .ok r) :
    ∃ index, Single a.plan start.1 last.after.1 (tries.flatMap Try.journal) index := by
  have planned := BrowserAction.plan_ne_nil valid
  induction h generalizing j with
  | @last retries t sound _ =>
    obtain rfl : t = last := by simpa using isLast
    obtain ⟨index, calls, share⟩ := sound.made.share valid
    rw [worked] at share
    refine ⟨index, ?_⟩
    rw [List.flatMap_singleton]
    exact share.single planned (sound.made.tidy tidy).last
  | @again retries t rest sound lost more ih =>
    obtain ⟨u, us, rfl⟩ : ∃ u us, rest = u :: us := by
      refine List.exists_cons_of_ne_nil ?_
      rintro rfl
      cases more.first
    rw [List.getLast?_cons_cons] at isLast
    have tidy' := sound.made.tidy tidy
    have left := Try.left_of_lost lost
    obtain ⟨index, single⟩ := ih (j := j ++ t.journal) (by rw [left]; exact tidy') isLast
    obtain ⟨before, calls, share⟩ := sound.made.share valid
    refine ⟨index, ?_⟩
    cases outcome : t.outcome with
    | ok r =>
      rw [Try.lost_of_ok outcome] at lost
      cases lost
    | error e =>
      rw [outcome] at share
      rw [left] at single
      rw [List.flatMap_cons]
      exact single.after share planned tidy'.last (by simp [SessionState.withStatus]) rfl
        sound.attempting.later

end Tries

/-! ## Actions -/

/-- The calls that are recorded on the page of a launched session. -/
def ScriptedBrowser.callsOf (b : ScriptedBrowser) (index : Nat) : List PageCall :=
  ((b.sessions[index]?).map LaunchedSession.calls).getD []

/-- What is recorded is what the journal shows, of a session that was not launched nothing. -/
theorem Tidy.callsOf {held : Nat × Option Nat} {b : ScriptedBrowser} {j : List Entry}
    (h : Tidy held b.records j) (i : Nat) : b.callsOf i = recordedOn i j := by
  unfold ScriptedBrowser.callsOf
  cases there : b.sessions[i]? with
  | some session =>
    have record : b.records[i]? = some session.record := by simp [ScriptedBrowser.records, there]
    exact h.calls i session.record record
  | none =>
    refine (List.filterMap_eq_nil_iff.mpr fun e mem => ?_).symm
    unfold Entry.recordedOn?
    split
    case h_1 index c =>
      refine if_neg ?_
      rintro rfl
      have known := h.known index c mem
      rw [ScriptedBrowser.records, List.length_map] at known
      exact absurd known (Nat.not_lt.mpr (List.getElem?_eq_none_iff.mp there))
    case h_2 => rfl

/-- A session that is not in use was torn down. -/
theorem Tidy.tornDown {held : Nat × Option Nat} {b : ScriptedBrowser} {j : List Entry}
    (h : Tidy held b.records j) {i : Nat} (launched : i < held.1) (notInUse : held.2 ≠ some i) :
    ∃ session, b.sessions[i]? = some session ∧
      session.pageCloses = 1 ∧ session.contextCloses = 1 ∧ session.processCloses = 1 := by
  have there : i < b.sessions.length := by
    have length := h.launched
    rw [ScriptedBrowser.records, List.length_map] at length
    omega
  have record : b.records[i]? = some b.sessions[i].record := by
    simp [ScriptedBrowser.records, there]
  have closes := (h.closes i _ record).trans (if_neg notInUse)
  refine ⟨_, List.getElem?_eq_getElem there, ?_⟩
  simpa [LaunchedSession.record] using closes

namespace System

/-- A state that a session and its browser come to. -/
def Reachable [Web.Library] (S : System) : Prop :=
  ∃ happenings, start.run happenings = S

variable {S : System}

theorem Reachable.tidy [Web.Library] (h : S.Reachable) : S.Tidy := by
  obtain ⟨happenings, rfl⟩ := h
  exact (show start.Tidy from .init).run happenings

/-- An action that succeeds records its plan on one session. -/
theorem Tidy.single [Web.Library] (tidy : S.Tidy) (config : BrowserConfig) (a : BrowserAction)
    (schedule : List (List Disturbance)) :
    (World.backend.journaled.perform id config a).Ensures S.state ⟨S.browser, schedule⟩
      fun answer s' _ j => answer.success = true → ∃ index, Single a.plan S.state s' j index := by
  unfold perform
  cases valid : a.validate with
  | error e => exact ensures_pure fun success => by cases success
  | ok _ =>
    refine (attempts_attempted (b := World.backend) config.maxActionRetries S.state _).mono ?_
    rintro answer s' w' _ ⟨tries, retrying, ⟨t, isLast, rfl, left⟩, rfl⟩ success
    cases worked : t.outcome with
    | error e =>
      rw [Try.answer_of_error worked] at success
      cases success
    | ok r =>
      obtain ⟨index, single⟩ := retrying.single valid tidy isLast worked
      rw [Try.left_of_kept (Try.lost_of_ok worked)] at left
      obtain rfl : s' = t.after.1 := congrArg Prod.fst left
      exact ⟨index, single⟩

end System

/-- **A success is that of the whole plan on one session.** Whatever happened before, and whatever
fails meanwhile: an action that succeeds has all of its plan recorded, in order and nothing else, on
the session that it leaves in use. Any other session that it had calls recorded on is an older one,
with the beginning of the plan and not all of it, and was torn down. -/
theorem performed_on_one_session [Web.Library] {S : System} (reached : S.Reachable)
    {config : BrowserConfig} {a : BrowserAction} {schedule : List (List Disturbance)}
    {r : NodeResult} {s' : SessionState} {w' : World}
    (ran : ((World.backend.perform id config a).run S.state).run ⟨S.browser, schedule⟩ =
      ((r, s'), w'))
    (success : r.success = true) :
    ∃ (index : Nat) (recorded : Nat → List PageCall), s'.current = some index ∧
      (∀ i, w'.browser.callsOf i = S.browser.callsOf i ++ recorded i) ∧
      recorded index = a.plan ∧
      ∀ i, i ≠ index → recorded i ≠ [] →
        i < index ∧ recorded i <+: a.plan ∧ recorded i ≠ a.plan ∧
          ∃ session, w'.browser.sessions[i]? = some session ∧
            session.pageCloses = 1 ∧ session.contextCloses = 1 ∧ session.processCloses = 1 := by
  have tidy := reached.tidy
  have kept := perform_preserves World.keeps_tidy config a S.state ⟨S.browser, schedule⟩ S.journal
    tidy
  obtain ⟨j, tidy', single⟩ := (kept.and (tidy.single config a schedule)).erased
    (perform_corresponds (journaled_corresponds World.backend) config a) ran
  obtain ⟨index, single⟩ := single success
  refine ⟨index, fun i => recordedOn i j, single.inUse, fun i => ?_, single.whole, ?_⟩
  · rw [tidy'.callsOf, tidy.callsOf, recordedOn_append]
  · intro i other recorded
    obtain ⟨older, beginning, notAll⟩ := single.older i other recorded
    have last : index + 1 = s'.generation := tidy'.last index single.inUse
    have launched : i < s'.generation := by omega
    have notInUse : s'.current ≠ some i := by
      rw [single.inUse]
      simpa using Ne.symm other
    exact ⟨older, beginning, notAll, tidy'.tornDown launched notInUse⟩

/-- The session is lost between the two calls of a click. -/
theorem performed_on_one_session_relaunched :
    let a : BrowserAction := ⟨.click, none, some "#go", none, none, []⟩
    let S := System.start.run [.disturbance (.fail .click (.connectionLost "gone"))]
    S.Reachable ∧ ∃ r s' w',
      ((World.backend.perform id BrowserConfig.default a).run S.state).run ⟨S.browser, []⟩ =
        ((r, s'), w') ∧
      r.success = true ∧ w'.browser.callsOf 0 = [.waitFor "#go"] ∧
      ∃ (index : Nat) (recorded : Nat → List PageCall), s'.current = some index ∧
        (∀ i, w'.browser.callsOf i = S.browser.callsOf i ++ recorded i) ∧
        recorded index = a.plan ∧
        ∀ i, i ≠ index → recorded i ≠ [] →
          i < index ∧ recorded i <+: a.plan ∧ recorded i ≠ a.plan ∧
            ∃ session, w'.browser.sessions[i]? = some session ∧
              session.pageCloses = 1 ∧ session.contextCloses = 1 ∧ session.processCloses = 1 := by
  intro a S
  have reached : S.Reachable := ⟨_, rfl⟩
  obtain ⟨⟨⟨r, s'⟩, w'⟩, ran⟩ : ∃ answer, ((World.backend.perform id BrowserConfig.default a).run
    S.state).run ⟨S.browser, []⟩ = answer := ⟨_, rfl⟩
  have success : (((World.backend.perform id BrowserConfig.default a).run
      S.state).run ⟨S.browser, []⟩).1.1.success = true := by
    decide +kernel
  have first : (((World.backend.perform id BrowserConfig.default a).run
      S.state).run ⟨S.browser, []⟩).2.browser.callsOf 0 = [.waitFor "#go"] := by
    decide +kernel
  rw [ran] at success first
  exact ⟨reached, r, s', w', ran, success, first, performed_on_one_session reached ran success⟩

end Automation
