import Automation.Proofs.Browser.Conduct

/-!
# Tries of an action

To perform an action is to try it, and to try it again as long as the session is lost and tries are
left. A `Try` is one attempt: what it starts from, what it comes to and leaves, and its journal.
`Retrying` is the chain of the tries, one constructor for each way to go on after an attempt, and
`Tried` is what follows from it for the action as a whole.

The browser is any browser: whatever it answers, the tries are bounded, and so are the launches and
the navigations.
-/

namespace Automation

open Browser Managed

/-- One attempt at an action: the state of the session and the world that it starts from, its outcome,
the state and the world that it leaves, and its journal, first between sessions and then on a page. -/
structure Try (σ : Type) where
  before : SessionState × σ
  outcome : Except BrowserError NodeResult
  after : SessionState × σ
  opening : List Entry
  work : List Entry

namespace Try

variable {σ : Type} (t : Try σ)

/-- Whether the attempt failed because the session is lost. -/
def lost : Bool :=
  match t.outcome with
  | .ok _ => false
  | .error e => e.isConnectionLoss

/-- The result of an action whose last attempt this is. A failure carries the text of its error. -/
def answer : NodeResult :=
  match t.outcome with
  | .ok r => r
  | .error e => .failed e.message

/-- What is left after the attempt, once a loss is noted. -/
def left : SessionState × σ :=
  if t.lost then (t.after.1.withStatus .disconnected, t.after.2) else t.after

/-- The journal of the attempt. -/
def journal : List Entry :=
  t.opening ++ t.work

variable {t}

theorem answer_of_ok {r : NodeResult} (worked : t.outcome = .ok r) : t.answer = r := by
  rw [answer, worked]

theorem answer_of_error {e : BrowserError} (failed : t.outcome = .error e) :
    t.answer = .failed e.message := by
  rw [answer, failed]

theorem lost_of_ok {r : NodeResult} (worked : t.outcome = .ok r) : t.lost = false := by
  rw [lost, worked]

theorem lost_of_error {e : BrowserError} (failed : t.outcome = .error e) :
    t.lost = e.isConnectionLoss := by
  rw [lost, failed]

theorem left_of_lost (lost : t.lost = true) :
    t.left = (t.after.1.withStatus .disconnected, t.after.2) :=
  if_pos lost

theorem left_of_kept (kept : t.lost = false) : t.left = t.after :=
  if_neg (by simp [kept])

variable (t) [Web.Library]

/-- Whether this is what an attempt at an action does. -/
def Made (b : Browser (StateM σ)) (config : BrowserConfig) (a : BrowserAction) : Prop :=
  ((b.journaled.attempt config a).run t.before.1).run.run t.before.2 =
    (((t.outcome, t.after.1), t.journal), t.after.2)

/-- Whether this is an attempt, as attempts are. -/
structure Sound (b : Browser (StateM σ)) (config : BrowserConfig) (a : BrowserAction) : Prop where
  made : t.Made b config a
  attempting : Attempting config a t.before.1 t.outcome t.after.1 t.opening t.work

end Try

/-- Noting a loss leaves what is left after the attempt. -/
theorem noteLoss_left {σ : Type} {t : Try σ} {e : BrowserError} (failed : t.outcome = .error e) :
    (noteLoss e : Managed (Journaled σ) Unit).Ensures t.after.1 t.after.2 fun _ s' w' j =>
      (s', w') = t.left ∧ j = [] := by
  have lost := Try.lost_of_error failed
  unfold noteLoss
  split
  case isTrue loss => exact ensures_modify ⟨(Try.left_of_lost (lost.trans loss)).symm, rfl⟩
  case isFalse kept =>
    exact ensures_pure ⟨(Try.left_of_kept (lost.trans (Bool.not_eq_true _ ▸ kept))).symm, rfl⟩

variable [Web.Library]

section

variable {σ : Type} {b : Browser (StateM σ)} {config : BrowserConfig} {a : BrowserAction}

/-- **The chain of tries** from a start, with a number of retries left. -/
inductive Retrying (b : Browser (StateM σ)) (config : BrowserConfig) (a : BrowserAction) :
    Nat → SessionState × σ → List (Try σ) → Prop where
  | last {retries : Nat} {t : Try σ} (sound : t.Sound b config a)
    (enough : t.lost = true → retries = 0) : Retrying b config a retries t.before [t]
  | again {retries : Nat} {t : Try σ} {rest : List (Try σ)} (sound : t.Sound b config a)
    (lost : t.lost = true) (more : Retrying b config a retries t.left rest) :
    Retrying b config a (retries + 1) t.before (t :: rest)

/-- An attempt is a try. -/
theorem attempt_try (s : SessionState) (w : σ) :
    (b.journaled.attempt config a).Ensures s w fun outcome s' w' j =>
      ∃ t : Try σ, t.Sound b config a ∧ t.before = (s, w) ∧ t.outcome = outcome ∧
        t.after = (s', w') ∧ t.journal = j := by
  obtain ⟨opening, work, split, attempting⟩ := b.attempt_ensures (s := s) (w := w) config a
  refine ⟨⟨(s, w), _, (_, _), opening, work⟩, ⟨?_, attempting⟩, rfl, rfl, rfl, split.symm⟩
  show _ = (((_, _), opening ++ work), _)
  rw [← split]
  rfl

/-- What attempts come to: a chain of tries, of which the last one gives the answer and what is left,
and the journals of all of them. -/
structure Attempted (b : Browser (StateM σ)) (config : BrowserConfig) (a : BrowserAction)
    (retries : Nat) (start : SessionState × σ) (answer : NodeResult) (stop : SessionState × σ)
    (written : List Entry) (tries : List (Try σ)) : Prop where
  retrying : Retrying b config a retries start tries
  last : ∃ t, tries.getLast? = some t ∧ answer = t.answer ∧ stop = t.left
  journal : written = tries.flatMap Try.journal

/-- A try that is the last one. -/
theorem Attempted.done {t : Try σ} (retries : Nat) (sound : t.Sound b config a)
    (enough : t.lost = true → retries = 0) :
    Attempted b config a retries t.before t.answer t.left (t.journal ++ []) [t] :=
  ⟨.last sound enough, ⟨t, rfl, rfl, rfl⟩, by simp⟩

/-- A try before others. -/
theorem Attempted.again {retries : Nat} {t : Try σ} {answer : NodeResult}
    {stop : SessionState × σ} {written : List Entry} {tries : List (Try σ)}
    (sound : t.Sound b config a) (lost : t.lost = true)
    (more : Attempted b config a retries t.left answer stop written tries) :
    Attempted b config a (retries + 1) t.before answer stop (t.journal ++ written) (t :: tries) := by
  obtain ⟨retrying, ⟨last, isLast, ends⟩, rfl⟩ := more
  refine ⟨.again sound lost retrying, ⟨last, ?_, ends⟩, rfl⟩
  rw [List.getLast?_cons, isLast, Option.getD_some]

/-- **Attempts are a chain of tries**, by induction on the retries that are left. -/
theorem attempts_attempted (retries : Nat) (s : SessionState) (w : σ) :
    (b.journaled.attempts config a retries).Ensures s w fun answer s' w' j =>
      ∃ tries, Attempted b config a retries (s, w) answer (s', w') j tries := by
  induction retries generalizing s w with
  | zero =>
    unfold attempts
    refine ensures_bind ((attempt_try s w).mono ?_)
    rintro outcome s' w' j ⟨t, sound, before, isOutcome, after, rfl⟩
    have done := Attempted.done 0 sound fun _ => rfl
    rw [before] at done
    cases outcome with
    | ok r =>
      rw [Try.answer_of_ok isOutcome, Try.left_of_kept (Try.lost_of_ok isOutcome), after] at done
      exact ensures_pure ⟨[t], done⟩
    | error e =>
      have noted := noteLoss_left isOutcome
      rw [after] at noted
      refine ensures_bind (noted.mono ?_)
      rintro _ s'' w'' _ ⟨isLeft, rfl⟩
      rw [Try.answer_of_error isOutcome, ← isLeft] at done
      exact ensures_pure ⟨[t], done⟩
  | succ retries ih =>
    unfold attempts
    refine ensures_bind ((attempt_try s w).mono ?_)
    rintro outcome s' w' j ⟨t, sound, before, isOutcome, after, rfl⟩
    cases outcome with
    | ok r =>
      have kept := Try.lost_of_ok isOutcome
      have done := Attempted.done (retries + 1) sound (by simp [kept])
      rw [before, Try.answer_of_ok isOutcome, Try.left_of_kept kept, after] at done
      exact ensures_pure ⟨[t], done⟩
    | error e =>
      have noted := noteLoss_left isOutcome
      rw [after] at noted
      refine ensures_bind (noted.mono ?_)
      rintro _ s'' w'' _ ⟨isLeft, rfl⟩
      have lost := Try.lost_of_error isOutcome
      split
      case isTrue loss =>
        -- The next attempt starts from what this one left.
        refine (ih s'' w'').mono ?_
        rintro answer s₂ w₂ j ⟨tries, more⟩
        rw [isLeft] at more
        exact ⟨t :: tries, before ▸ more.again sound (lost.trans loss)⟩
      case isFalse kept =>
        have done := Attempted.done (retries + 1) sound
          fun loss => absurd (lost.symm.trans loss) kept
        rw [before, Try.answer_of_error isOutcome, ← isLeft] at done
        exact ensures_pure ⟨[t], done⟩

namespace Retrying

variable {retries : Nat} {start : SessionState × σ} {tries : List (Try σ)}

theorem sound (h : Retrying b config a retries start tries) : ∀ t ∈ tries, t.Sound b config a := by
  induction h with
  | last sound _ => simpa using sound
  | again sound _ _ ih => simpa using ⟨sound, ih⟩

theorem first (h : Retrying b config a retries start tries) :
    tries.head?.map Try.before = some start := by
  cases h <;> rfl

theorem length_le (h : Retrying b config a retries start tries) : tries.length ≤ retries + 1 := by
  induction h with
  | last => simp
  | again _ _ _ ih => simpa using ih

theorem next (h : Retrying b config a retries start tries) {i : Nat} {t t' : Try σ}
    (this : tries[i]? = some t) (that : tries[i + 1]? = some t') :
    t.lost = true ∧ t'.before = t.left := by
  induction h generalizing i with
  | last => simp at that
  | @again _ u rest _ lost more ih =>
    rw [List.getElem?_cons_succ] at that
    cases i with
    | zero =>
      obtain rfl : u = t := by simpa using this
      refine ⟨lost, ?_⟩
      have first := more.first
      rw [List.head?_eq_getElem?, that] at first
      exact Option.some.inj first
    | succ i => exact ih (by simpa using this) that

end Retrying

/-- A valid navigation has an address. -/
theorem BrowserAction.normalizeUrl_of_valid (valid : a.validate = .ok ()) (navigate : a.action = .navigate) :
    ∃ url, normalizeUrl (a.url.getD "") = .ok url := by
  unfold BrowserAction.validate at valid
  rw [navigate, if_neg (by simp [ActionType.needsSelector]), if_neg (by simp [ActionType.needsText]),
    if_pos rfl] at valid
  split at valid
  · cases valid
  · cases normalized : normalizeUrl (a.url.getD "") with
    | ok url => exact ⟨url, rfl⟩
    | error e =>
      rw [normalized] at valid
      cases valid

namespace Try

variable {t : Try σ}

/-- An attempt launches at most twice. -/
theorem Sound.launches (h : t.Sound b config a) : t.journal.countP Entry.isLaunch ≤ 2 := by
  have none : t.work.countP Entry.isLaunch = 0 := by
    refine List.countP_eq_zero.mpr fun e he => ?_
    obtain ⟨index, _, working, _⟩ := h.attempting.working (List.ne_nil_of_mem he)
    have work := working.work e he
    cases e <;> simp_all [Entry.isLaunch, Entry.IsWorkOn]
  rw [journal, List.countP_append, none]
  exact h.attempting.launches

end Try

end

end Automation
