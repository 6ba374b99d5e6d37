import Automation.Proofs.Engine.Tasks
import Automation.Proofs.Engine.Traces
import Automation.Regex.Reader
import Automation.Web.Standard

/-!
# Waiters are answered

A waiter holds on to the registration that its run had when it began to wait. Until the waiter looks
again the run may finish and be forgotten, and its id may be registered anew. But a registration
stays tracked until it is recorded (`Runs.Kept.held`), and what is recorded stays: so a waiter is
never told of an error (`Runs.waits`), and in an engine it is answered (`waits_answered`).
-/

namespace Automation

open Registry (find?)

namespace Runs

variable [Regex.Library] {policy : RevisitPolicy} {ms : List Move} {n : Nat} {r : RunRequest}
  {o : Outcome}

/-- A registration that is tracked stays so until it is recorded, which it stays. -/
theorem Kept.held {s : Runs} (h : s.Kept) (policy : RevisitPolicy) {id : String} {slot : Slot}
    (there : find? id s.registry.slots = some slot) (ms : List Move) :
    (∃ o, (s.moves policy ms).registry.received? slot.registration = some o) ∨
      ∃ slot', find? id (s.moves policy ms).registry.slots = some slot' ∧
        slot'.registration = slot.registration := by
  induction ms generalizing s slot with
  | nil => exact .inr ⟨slot, there, rfl⟩
  | cons m ms ih =>
    have kept := (h.move policy m).1
    rcases tracked_move policy m there with stays | ⟨_, known⟩
    · obtain ⟨slot₁, there₁, same₁⟩ := Option.map_eq_some_iff.mp stays
      rw [← same₁]
      exact ih kept there₁
    · obtain ⟨o, recorded⟩ := Option.isSome_iff_exists.mp known
      exact .inl ⟨o, (h.moves policy (m :: ms)).2.recorded recorded⟩

/-- What a run ended with is an outcome of its own id. -/
theorem Ended.own (h : Ended policy ms n r o) : o.executionId = r.executionId := by
  obtain ⟨before, _, _, _, _, there⟩ := h
  obtain ⟨_, tracked⟩ := (kept_idle.moves policy before).1.tracked there
  exact tracked.phase.done.1

/-- Who waits for a registration is answered what its run ended with, or has to wait: then the
registration is tracked, and nothing is recorded for it. -/
def Waits (policy : RevisitPolicy) (ms : List Move) (id : String) (n : Nat) (r : RunRequest) :
    Prop :=
  let g := (idle.moves policy ms).registry
  (∃ o, g.poll id n = some (.ok o) ∧ o.executionId = id ∧ Ended policy ms n r o) ∨
    g.poll id n = none ∧ g.received? n = none ∧
      ∃ slot, find? id g.slots = some slot ∧ slot.registration = n

/-- **Who waits is not told of an error**, nor of another registration, whatever moves come between
the beginning and the answer. -/
theorem waits (policy : RevisitPolicy) (ms ms' : List Move) {id : String}
    (subscribed : (idle.moves policy ms).registry.subscribe id = .ok n) :
    ∃ r, r.executionId = id ∧ Begun policy ms n r ∧ Waits policy (ms ++ ms') id n r := by
  obtain ⟨slot, there, rfl⟩ := Registry.subscribe_ok subscribed
  obtain ⟨r, own, begun⟩ := (traced policy ms).tracked there
  refine ⟨r, own, begun, ?_⟩
  cases known : (idle.moves policy (ms ++ ms')).registry.received? slot.registration with
  | some o =>
    obtain ⟨r', begun', ended⟩ := (traced policy (ms ++ ms')).outcomes known
    cases begun'.unique (begun.append ms')
    exact .inl ⟨o, Registry.poll_received id known, ended.own.trans own, ended⟩
  | none =>
    have held := (kept_idle.moves policy ms).1.held policy there ms'
    rw [← moves_append, known] at held
    rcases held with ⟨_, recorded⟩ | ⟨slot', there', same⟩
    · cases recorded
    · have waiting := Registry.poll_tracked id there' (same ▸ known)
      exact .inr ⟨same ▸ waiting, known, slot', there', same⟩

end Runs

/-! ## In an engine -/

/-- A task of a run that has something left to do is a task of the scheduler. -/
theorem Aligned.live [Regex.Library] [Web.Library] {d : Dispatcher}
    {as : List (Option (Activity EngineState Unit))} {ts : List (Option RunTask)}
    (h : Aligned d as ts) {j : Nat} {t : RunTask} (there : ts[j]? = some (some t)) :
    ∃ (i : Nat) (a : Activity EngineState Unit), as[i]? = some (some a) := by
  induction h generalizing j with
  | nil => cases there
  | @run a t' as ts alike _ ih =>
    cases j with
    | zero =>
      cases there
      cases alike with
      | @some a _ _ => exact ⟨0, a, rfl⟩
    | succ j =>
      obtain ⟨i, a, there⟩ := ih there
      exact ⟨i + 1, a, there⟩
  | aside _ _ ih =>
    obtain ⟨i, a, there⟩ := ih there
    exact ⟨i + 1, a, there⟩

namespace Engine

variable {policy : RevisitPolicy} {e : Engine} {ms : List Move} {id : String} {n : Nat}

/-- A waiter that is answered when the tasks have gone on has waited. -/
theorem wait_of_poll {o : Outcome} (subscribed : e.registry.subscribe id = .ok n)
    (answered : (e.runUntil fun s => (s.registry.poll id n).isSome).registry.poll id n =
      some (.ok o)) :
    e.wait id = .ok (o, e.runUntil fun s => (s.registry.poll id n).isSome) := by
  simp only [Engine.wait, subscribed, answered]
  rfl

variable [Regex.Library] [Web.Library]

/-- **Who waits in an engine is answered**: when the tasks have come to their ends, nothing is left
to be recorded. -/
theorem wait_answers (h : e.Interleaves policy (Runs.idle.moves policy ms))
    (orderly : e.scheduler.Orderly) (subscribed : e.registry.subscribe id = .ok n) :
    ∃ o e' ms' r, e.wait id = .ok (o, e') ∧
      e'.Interleaves policy (Runs.idle.moves policy (ms ++ ms')) ∧
      r.executionId = id ∧ Runs.Begun policy ms n r ∧ Runs.Ended policy (ms ++ ms') n r o := by
  have same : e.registry = (Runs.idle.moves policy ms).registry := h.scheduler.registry
  let later := e.runUntil fun s => (s.registry.poll id n).isSome
  obtain ⟨ms', h'⟩ :
      ∃ ms', later.Interleaves policy ((Runs.idle.moves policy ms).moves policy ms') :=
    h.run _
  rw [← Runs.moves_append] at h'
  have same' : later.registry = (Runs.idle.moves policy (ms ++ ms')).registry :=
    h'.scheduler.registry
  obtain ⟨r, own, begun, waits⟩ := Runs.waits policy ms ms' (same ▸ subscribed)
  rcases waits with ⟨o, answered, _, ended⟩ | ⟨waiting, unknown, slot, there, registration⟩
  · refine ⟨o, later, ms', r, ?_, h', own, begun, ended⟩
    exact wait_of_poll subscribed (same' ▸ answered)
  · -- The run has a task, which the scheduler would have gone on with.
    subst registration
    obtain ⟨j, t, there, _⟩ := (Runs.traced policy (ms ++ ms')).attended there unknown
    obtain ⟨i, a, left⟩ := h'.scheduler.tasks.live there
    rcases orderly.run_ends fun s => (s.shared.registry.poll id slot.registration).isSome with
      enough | ended
    · have answered : (later.registry.poll id slot.registration).isSome = true := enough
      rw [same', waiting] at answered
      cases answered
    · exact absurd left (ended i a)

end Engine

/-- **Waiters are answered.** However calls and steps of tasks interleave: who began to wait for an
id that was tracked is answered what the run of that very registration ended with, or has to wait,
even if the run is forgotten and its id registered anew before. In an engine, where the tasks go on,
to wait for an id that is tracked is to be answered. -/
theorem waits_answered [Regex.Library] [Web.Library] (policy : RevisitPolicy) :
    (∀ ms ms' id n, (Runs.idle.moves policy ms).registry.subscribe id = .ok n →
      ∃ r, r.executionId = id ∧ Runs.Begun policy ms n r ∧
        Runs.Waits policy (ms ++ ms') id n r) ∧
    ∀ (network : Web.Network) (c : Config) (session : Session) (e e' : Engine),
      Engine.open network c session = .opened e → c.engine.revisitPolicy = policy → e.Reaches e' →
      ∃ ms, e'.registry = (Runs.idle.moves policy ms).registry ∧
        (∀ e'', e'.Reaches e'' →
          ∃ ms', e''.registry = (Runs.idle.moves policy (ms ++ ms')).registry) ∧
        ∀ id n, e'.registry.subscribe id = .ok n → ∃ o e'' ms' r, e'.wait id = .ok (o, e'') ∧
          e''.registry = (Runs.idle.moves policy (ms ++ ms')).registry ∧
          r.executionId = id ∧ Runs.Begun policy ms n r ∧ Runs.Ended policy (ms ++ ms') n r o := by
  refine ⟨fun ms ms' id n => Runs.waits policy ms ms', ?_⟩
  rintro network c session e e' opened rfl reaches
  have orderly := reaches.orderly (Engine.orderly_open opened)
  obtain ⟨ms, h⟩ := reaches.interleaved (Engine.interleaves_open opened)
  refine ⟨ms, h.scheduler.registry, fun e'' further => ?_, fun id n subscribed => ?_⟩
  · obtain ⟨ms', h'⟩ := further.interleaved h
    rw [← Runs.moves_append] at h'
    exact ⟨ms', h'.scheduler.registry⟩
  · obtain ⟨o, e'', ms', r, waited, h', own, begun, ended⟩ :=
      Engine.wait_answers h orderly subscribed
    exact ⟨o, e'', ms', r, waited, h'.scheduler.registry, own, begun, ended⟩

/-- Who waits for a run that was started is answered. -/
theorem waits_answered_started :
    let r : RunRequest := ⟨"w", "e", [⟨"a", "", none, none, .start⟩], [], none⟩
    ∃ e e', Engine.open (fun _ => none) Config.default (Session.start .fresh) = .opened e ∧
      e.start r = .ok e' ∧ e'.registry.subscribe "e" = .ok 0 ∧
      ∃ o e'' ms r', e'.wait "e" = .ok (o, e'') ∧
        e''.registry = (Runs.idle.moves .fail ms).registry ∧ r'.executionId = "e" ∧
        Runs.Ended .fail ms 0 r' o := by
  intro r
  refine ⟨_, _, rfl, rfl, rfl, ?_⟩
  obtain ⟨ms, -, -, answered⟩ := (waits_answered .fail).2 (fun _ => none) Config.default
    (Session.start .fresh) _ _ rfl rfl (.start r .refl rfl)
  obtain ⟨o, e'', ms', r', waited, same, own, -, ended⟩ := answered "e" 0 rfl
  exact ⟨o, e'', ms ++ ms', r', waited, same, own, ended⟩

end Automation
