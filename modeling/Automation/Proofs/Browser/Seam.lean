import Automation.Browser.Manager
import Automation.Proofs.Correspondence

/-!
# Sessions over corresponding browsers

A session cannot tell corresponding browsers from one another: whatever it does with one of them
corresponds to what it does with the other.
-/

namespace Automation

variable {m n : Type → Type} [Monad m] [Monad n]

/-- Browsers that correspond, as far as work on the page of one launched session goes. -/
structure Browser.CorrespondsOn (R : Correspondence m n) (index : Nat) (b : Browser m)
    (c : Browser n) : Prop where
  call : ∀ call, R.Holds (b.call index call) (c.call index call)
  url : R.Holds (b.url index) (c.url index)
  title : R.Holds (b.title index) (c.title index)
  sleep : ∀ milliseconds, R.Holds (b.sleep milliseconds) (c.sleep milliseconds)

/-- Browsers that correspond. -/
structure Browser.Corresponds (R : Correspondence m n) (b : Browser m) (c : Browser n) : Prop where
  launch : R.Holds b.launch c.launch
  isUsable : ∀ index, R.Holds (b.isUsable index) (c.isUsable index)
  page : ∀ index, b.CorrespondsOn R index c
  close : ∀ index part, R.Holds (b.close index part) (c.close index part)
  watch : ∀ index generation, R.Holds (b.watch index generation) (c.watch index generation)

namespace Browser

/-! ## On a page -/

section

variable {R : Correspondence m n} {b : Browser m} {c : Browser n} {index : Nat}
  (h : b.CorrespondsOn R index c)

include h

theorem goto_corresponds (backoff : Nat) (url : String) (retries : Nat) :
    R.Holds (b.goto index backoff url retries) (c.goto index backoff url retries) := by
  induction retries with
  | zero => exact h.call _
  | succ retries ih =>
    refine R.bind (h.call _) fun answer => ?_
    cases answer with
    | ok status => exact R.pure _
    | error e =>
      dsimp only
      split
      · exact R.bind (h.sleep _) fun _ => ih
      · exact R.pure _

theorem navigate_corresponds (config : BrowserConfig) (url : String) :
    (R.fallible BrowserError).Holds (b.navigate config index url) (c.navigate config index url) :=
  (R.fallible _).bind (goto_corresponds h _ url _) fun _ =>
    (R.fallible _).bind h.title fun _ => (R.fallible _).bind h.url fun _ => (R.fallible _).pure _

variable [Web.Library]

theorem execute_corresponds (config : BrowserConfig) (a : BrowserAction) :
    (R.fallible BrowserError).Holds (b.execute config a index) (c.execute config a index) := by
  have called (call : PageCall) : (R.fallible BrowserError).Holds
      (ExceptT.mk (b.call index call)) (ExceptT.mk (c.call index call)) := h.call call
  unfold execute
  cases a.action with
  | navigate =>
    refine (R.fallible _).bind (R.pure _) fun url => ?_
    exact navigate_corresponds h config url
  | click | type | select | extractData =>
    exact (R.fallible _).bind (called _) fun _ =>
      (R.fallible _).bind (called _) fun _ => (R.fallible _).pure _
  | waitForSelector | screenshot =>
    exact (R.fallible _).bind (called _) fun _ => (R.fallible _).pure _
  | waitForNavigation =>
    refine (R.fallible _).bind (called _) fun _ => ?_
    exact (R.fallible _).bind h.url fun _ => (R.fallible _).pure _

end

/-! ## Holding the lock -/

section

variable {R : Correspondence m n} {b : Browser m} {c : Browser n}

/-- The correspondence of computations that hold the lock. -/
abbrev managed (R : Correspondence m n) : Correspondence (Managed m) (Managed n) :=
  R.stateful SessionState

theorem managed_get : (managed R).Holds get get :=
  fun s => R.pure (s, s)

theorem managed_modify (f : SessionState → SessionState) :
    (managed R).Holds (modify f) (modify f) :=
  fun s => R.pure ((), f s)

theorem managed_lift {x : m α} {y : n α} (h : R.Holds x y) :
    (managed R).Holds (liftM x) (liftM y) :=
  fun s => R.bind h fun a => R.pure (a, s)

theorem noteLoss_corresponds (e : BrowserError) :
    (managed R).Holds (noteLoss e : Managed m Unit) (noteLoss e : Managed n Unit) := by
  unfold noteLoss
  split
  · exact managed_modify _
  · exact (managed R).pure _

variable (h : b.Corresponds R c)

include h

theorem usable?_corresponds : (managed R).Holds b.usable? c.usable? := by
  refine (managed R).bind managed_get fun s => ?_
  split
  · exact (managed R).pure _
  · exact (managed R).bind (managed_lift (h.isUsable _)) fun _ => (managed R).pure _

theorem isReady_corresponds : (managed R).Holds b.isReady c.isReady := by
  refine (managed R).bind managed_get fun s => ?_
  split
  · exact (managed R).bind (usable?_corresponds h) fun _ => (managed R).pure _
  · exact (managed R).pure _

theorem teardown_corresponds : (managed R).Holds b.teardown c.teardown := by
  refine (managed R).bind managed_get fun s => ?_
  split
  · exact (managed R).pure _
  · refine (managed R).bind (managed_modify _) fun _ => ?_
    exact (managed R).bind (managed_lift (h.close _ _)) fun _ =>
      (managed R).bind (managed_lift (h.close _ _)) fun _ =>
        (managed R).bind (managed_lift (h.close _ _)) fun _ => (managed R).pure _

theorem launchUsable_corresponds (tries : Nat) (last : BrowserError) :
    (managed R).Holds (b.launchUsable tries last) (c.launchUsable tries last) := by
  induction tries generalizing last with
  | zero => exact (managed R).pure _
  | succ tries ih =>
    refine (managed R).bind (teardown_corresponds h) fun _ => ?_
    refine (managed R).bind (managed_modify _) fun _ => ?_
    refine (managed R).bind (managed_lift h.launch) fun launched => ?_
    cases launched with
    | error e => exact ih e
    | ok index =>
      refine (managed R).bind (managed_modify _) fun _ => ?_
      refine (managed R).bind managed_get fun s => ?_
      refine (managed R).bind (managed_lift (h.watch _ _)) fun _ => ?_
      refine (managed R).bind (usable?_corresponds h) fun usable => ?_
      cases usable with
      | some _ => exact (managed R).bind (managed_modify _) fun _ => (managed R).pure _
      | none => exact ih .unusable

theorem acquire_corresponds : (managed R).Holds b.acquire c.acquire := by
  refine (managed R).bind (isReady_corresponds h) fun ready => ?_
  split
  · exact (managed R).bind managed_get fun _ => (managed R).pure _
  · exact launchUsable_corresponds h 2 .unusable

theorem shutdown_corresponds : (managed R).Holds b.shutdown c.shutdown :=
  (managed R).bind (teardown_corresponds h) fun _ => managed_modify _

variable [Web.Library]

theorem attempt_corresponds (config : BrowserConfig) (a : BrowserAction) :
    (managed R).Holds (b.attempt config a) (c.attempt config a) := by
  refine (managed R).bind (acquire_corresponds h) fun acquired => ?_
  cases acquired with
  | error e => exact (managed R).pure _
  | ok generation =>
    refine (managed R).bind (usable?_corresponds h) fun usable => ?_
    cases usable with
    | none => exact (managed R).pure _
    | some index => exact managed_lift (execute_corresponds (h.page index) config a)

theorem attempts_corresponds (config : BrowserConfig) (a : BrowserAction) (retries : Nat) :
    (managed R).Holds (b.attempts config a retries) (c.attempts config a retries) := by
  induction retries with
  | zero =>
    refine (managed R).bind (attempt_corresponds h config a) fun outcome => ?_
    cases outcome with
    | ok r => exact (managed R).pure _
    | error e => exact (managed R).bind (noteLoss_corresponds e) fun _ => (managed R).pure _
  | succ retries ih =>
    refine (managed R).bind (attempt_corresponds h config a) fun outcome => ?_
    cases outcome with
    | ok r => exact (managed R).pure _
    | error e =>
      refine (managed R).bind (noteLoss_corresponds e) fun _ => ?_
      split
      · exact ih
      · exact (managed R).pure _

theorem perform_corresponds (config : BrowserConfig) (a : BrowserAction) :
    (managed R).Holds (b.perform id config a) (c.perform id config a) := by
  unfold perform
  cases a.validate with
  | error e => exact (managed R).pure _
  | ok _ => exact attempts_corresponds h config a _

end

end Browser

end Automation
