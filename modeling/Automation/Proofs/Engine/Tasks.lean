import Automation.Proofs.Activity.Lock
import Automation.Proofs.Browser.Seam
import Automation.Proofs.Engine.Interleaving

/-!
# The tasks of an engine come to their ends

Every task of an engine takes the lock for whole operations on the browser session and gives it back
behind them. So the scheduler of an engine is orderly whatever it comes to
(`Engine.Reaches.orderly`), and if its tasks go on until something is so, it comes to be so or all of
them come to an end (`Scheduler.Orderly.run_ends`).
-/

namespace Automation

namespace Activity

/-- The correspondence of activities that leave the lock as it is. -/
def properly (σ : Type) (held : Bool) : Correspondence (Activity σ) (Activity σ) where
  Holds x _ := x.Proper held held
  pure _ := rfl
  bind hx hf := proper_bind hx hf

theorem proper_step (held : Bool) (f : σ → α × σ) : (step f).Proper held held :=
  fun _ => rfl

theorem proper_sleep (held : Bool) (milliseconds : Nat) :
    (sleep (σ := σ) milliseconds).Proper held held := by
  unfold sleep
  split
  · exact rfl
  · exact ⟨trivial, rfl⟩

end Activity

namespace Session

/-- The browser of a session leaves the lock alone. -/
theorem backend_properly (held : Bool) :
    backend.Corresponds (Activity.properly Session held) backend where
  launch := Activity.proper_step held _
  isUsable _ := Activity.proper_step held _
  page _ := by
    refine ⟨fun c => ?_, Activity.proper_step held _, rfl, Activity.proper_sleep held⟩
    refine Activity.proper_bind (Activity.proper_step held _) fun delay => ?_
    refine Activity.proper_bind (Activity.proper_sleep held delay) fun _ => ?_
    refine Activity.proper_bind (Activity.proper_step held _) fun answer => ?_
    cases answer with
    | error e => exact rfl
    | ok _ => exact Activity.proper_step held _
  close _ _ := Activity.proper_step held _
  watch _ _ := rfl

/-- An operation takes the lock and gives it back. -/
theorem proper_locked {x : Managed (Activity Session) α}
    (h : (Browser.managed (Activity.properly Session true)).Holds x x) :
    (locked x).Proper false false := by
  have seen : Activity.get.Proper (σ := Session) true true := fun _ => rfl
  exact Activity.proper_locked
    (Activity.proper_bind seen fun s => Activity.proper_bind (h s.toSessionState) fun _ => rfl)

theorem proper_closing : closing.Proper false false :=
  proper_locked (Browser.shutdown_corresponds (backend_properly true))

theorem proper_observer (generation : Nat) : (observer generation).Proper false false :=
  proper_locked (Browser.managed_modify _)

theorem proper_perform [Web.Library] (config : BrowserConfig) (a : BrowserAction) :
    (perform config a).Proper false false := by
  unfold perform Browser.perform
  split
  · exact rfl
  · exact proper_locked (Browser.attempts_corresponds (backend_properly true) config a _)

end Session

/-- What a node asks for takes the lock for whole operations. -/
theorem Dispatcher.proper_execute [Regex.Library] [Web.Library] (d : Dispatcher) (n : Node)
    (context : Fields) : (d.execute n context).Proper false false := by
  unfold execute
  split
  case h_5 a _ => exact Activity.proper_bind (Session.proper_perform d.browser a) fun _ => rfl
  case h_6 milliseconds _ =>
    refine Activity.proper_bind (a := delay (milliseconds.getD defaultDelay)) ?_ fun _ => rfl
    unfold delay
    split <;> exact ⟨trivial, rfl⟩
  all_goals exact rfl

/-- The task of a run takes the lock for whole operations. -/
theorem EngineState.proper_runTask [Regex.Library] [Web.Library] (d : Dispatcher)
    (policy : RevisitPolicy) (registration : Nat) (r : RunRequest) :
    (runTask d policy registration r).Proper false false := by
  have services : (services d registration).Corresponds
      (Activity.properly EngineState false) (services d registration) :=
    ⟨fun _ => rfl, fun n context => Activity.proper_onPart (d.proper_execute n context),
      fun _ => rfl, fun _ => Activity.proper_step false _⟩
  exact Activity.proper_bind (run_corresponds services policy r) fun _ => rfl

namespace Engine

theorem proper_onSession {a : Activity Session Unit} (h : a.Proper false false) :
    (onSession a).Proper false false :=
  Activity.proper_onPart h

theorem orderly_open [Web.Library] {network : Web.Network} {c : Config} {session : Session}
    {e : Engine} (opened : Engine.open network c session = .opened e) : e.scheduler.Orderly := by
  unfold Engine.open at opened
  split at opened
  · cases opened
  · split at opened
    · cases opened
    · cases opened
      exact Scheduler.orderly_start _

theorem orderly_start [Regex.Library] [Web.Library] {e e' : Engine} {r : RunRequest}
    (h : e.scheduler.Orderly) (started : e.start r = .ok e') : e'.scheduler.Orderly := by
  unfold Engine.start at started
  split at started
  · cases started
  · cases started
    exact (h.changed _ _).spawn (EngineState.proper_runTask _ _ _ _)

theorem orderly_shutdown {e : Engine} (h : e.scheduler.Orderly) : e.shutdown.scheduler.Orderly := by
  unfold Engine.shutdown
  split
  · exact (h.enter (proper_onSession Session.proper_closing)).run _
  · exact h.changed _ _

/-- **Whatever an engine comes to, its scheduler is orderly.** -/
theorem Reaches.orderly [Regex.Library] [Web.Library] {e e' : Engine} (reaches : e.Reaches e')
    (h : e.scheduler.Orderly) : e'.scheduler.Orderly := by
  induction reaches with
  | refl => exact h
  | start r _ started ih => exact orderly_start ih started
  | wait _ waited ih =>
    obtain ⟨n, _, rfl, _⟩ := wait_ok waited
    exact ih.run _
  | cancel _ canceled ih =>
    unfold Engine.cancel at canceled
    split at canceled
    · cases canceled
    · cases canceled
      exact ih.changed _ _
  | forget id _ ih => exact ih.changed _ _
  | waitForEvent event position _ ih => exact ih.run _
  | runUntil enough _ ih => exact ih.run _
  | settle _ ih => exact ih.run _
  | elapse milliseconds _ ih => exact (ih.run _).changed _ _
  | observe generation _ ih =>
    exact ih.spawn (proper_onSession (Session.proper_observer generation))
  | shutdown _ ih => exact orderly_shutdown ih
  | disturbed session _ ih => exact ih.changed _ _

end Engine

end Automation
