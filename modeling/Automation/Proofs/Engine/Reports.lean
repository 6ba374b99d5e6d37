import Automation.Proofs.Engine.Interleaving
import Automation.Regex.Reader
import Automation.Web.Standard

/-!
# What clients are told

The end of a run is known in two places: its execution has it from the last update, and the registry
has it from the outcome, which is recorded later. Whatever moves come in between, what clients are
told of a run only goes forward, and the two places agree once the outcome is there
(`runs_reported`).
-/

namespace Automation

open Registry (find?)

/-- How far a status is: not begun, begun or ended. -/
def Status.rank : Status → Nat
  | pending => 0
  | running => 1
  | completed => 2
  | failed => 2
  | canceled => 2

theorem Status.rank_terminal {status : Status} (h : status.isTerminal = true) :
    status.rank = 2 := by
  cases status with
  | pending => cases h
  | running => cases h
  | completed => rfl
  | failed => rfl
  | canceled => rfl

/-- The report on a run that is tracked, from its execution and its outcome. -/
def Slot.report (id : String) (slot : Slot) : Option Outcome → StatusReport
  | none => ⟨id, if slot.execution.status = .pending then .pending else .running, none, none⟩
  | some o => ⟨id, o.status, some o, o.error⟩

/-- A request of a task leaves the registrations as they are. -/
theorem Registry.registration_serve (g : Registry) (n : Nat) (answer : Except RunError NodeResult)
    (rest : Course Outcome) (id : String) :
    (find? id (g.serve n answer rest).1.slots).map Slot.registration =
      (find? id g.slots).map Slot.registration := by
  cases rest with
  | done o => exact registration_finish g id o
  | check next => rfl
  | handle n context next => rfl
  | emit event next => rfl
  | publish u next =>
    simp only [serve]
    cases published : g.publish u with
    | error e => rfl
    | ok g' => exact registration_publish id published

namespace Runs

variable {s s' : Runs} {policy : RevisitPolicy} {id : String} {slot slot' : Slot}

/-- A tracked run has a report. -/
theorem Kept.report (h : s.Kept) (there : find? id s.registry.slots = some slot) :
    s.registry.report id = .ok (slot.report id (s.registry.received? slot.registration)) := by
  cases recorded : s.registry.received? slot.registration with
  | none => exact (Registry.unrecorded there recorded).1
  | some o => exact (Registry.recorded there recorded (h.sound.recorded there recorded).2.1).1

/-- A report on an end has an outcome. -/
theorem Kept.report_terminal (h : s.Kept) (there : find? id s.registry.slots = some slot)
    (ended : (slot.report id (s.registry.received? slot.registration)).status.isTerminal = true) :
    ∃ o, s.registry.received? slot.registration = some o ∧ o.executionId = id ∧ o.Final := by
  cases recorded : s.registry.received? slot.registration with
  | none =>
    rw [recorded, Slot.report] at ended
    dsimp only at ended
    split at ended <;> cases ended
  | some o =>
    obtain ⟨own, final, _⟩ := h.sound.recorded there recorded
    exact ⟨o, rfl, own, final⟩

/-- **The report on a registration goes forward**, and stays as it is once it is an end. -/
theorem Kept.report_forward (h : s.Kept) (h' : s'.Kept) (later : s.registry.Later s'.registry)
    (there : find? id s.registry.slots = some slot)
    (there' : find? id s'.registry.slots = some slot')
    (same : slot'.registration = slot.registration) :
    let a := slot.report id (s.registry.received? slot.registration)
    let b := slot'.report id (s'.registry.received? slot'.registration)
    a.status.rank ≤ b.status.rank ∧ (a.status.isTerminal = true → b = a) := by
  obtain ⟨slot₀, there₀, _, begun⟩ := later.tracked there' (same ▸ h.sound.numbered there)
  rw [there, Option.some.injEq] at there₀
  subst there₀
  rw [same]
  cases recorded : s.registry.received? slot.registration with
  | some o =>
    rw [later.recorded recorded]
    exact ⟨Nat.le_refl _, fun _ => rfl⟩
  | none =>
    have going : (slot.report id none).status.rank ≤ 1 ∧
        (slot.report id none).status.isTerminal = false := by
      unfold Slot.report
      dsimp only
      split <;> exact ⟨by decide, rfl⟩
    refine ⟨?_, fun ended => by rw [going.2] at ended; cases ended⟩
    cases recorded' : s'.registry.received? slot.registration with
    | some o =>
      have ended := (h'.sound.recorded there' (same ▸ recorded')).2.1.ended
      show _ ≤ o.status.rank
      rw [Status.rank_terminal ended]
      exact Nat.le_succ_of_le going.1
    | none =>
      unfold Slot.report
      dsimp only
      by_cases pending : slot.execution.status = .pending
      · rw [if_pos pending]
        exact Nat.zero_le _
      · simp only [if_neg pending, if_neg (begun pending), Nat.le_refl]

/-- A request to forget a run is granted just if its outcome is recorded. -/
theorem Kept.forget_iff (h : s.Kept) (id : String) : (s.registry.forget id).2 = true ↔
    ∃ slot, find? id s.registry.slots = some slot ∧
      (s.registry.received? slot.registration).isSome = true := by
  constructor
  · intro dropped
    cases there : find? id s.registry.slots with
    | none => rw [(Registry.untracked there).2.2] at dropped; cases dropped
    | some slot =>
      cases recorded : s.registry.received? slot.registration with
      | none => rw [(Registry.unrecorded there recorded).2.2] at dropped; cases dropped
      | some o => exact ⟨slot, rfl, by rw [recorded]; rfl⟩
  · rintro ⟨slot, there, known⟩
    obtain ⟨o, recorded⟩ := Option.isSome_iff_exists.mp known
    rw [(Registry.recorded there recorded (h.sound.recorded there recorded).2.1).2.2]

/-- A request to stop is accepted just if the run is tracked and has no outcome. -/
theorem Kept.cancel_iff (h : s.Kept) (id : String) :
    (∃ g, s.registry.cancel id = .ok (g, true)) ↔
      ∃ slot, find? id s.registry.slots = some slot ∧
        s.registry.received? slot.registration = none := by
  constructor
  · rintro ⟨g, accepted⟩
    cases there : find? id s.registry.slots with
    | none => cases (Registry.untracked there).2.1.symm.trans accepted
    | some slot =>
      refine ⟨slot, rfl, ?_⟩
      cases recorded : s.registry.received? slot.registration with
      | none => rfl
      | some o =>
        have final := (h.sound.recorded there recorded).2.1
        cases (Registry.recorded there recorded final).2.1.symm.trans accepted
  · rintro ⟨slot, there, recorded⟩
    exact ⟨_, (Registry.unrecorded there recorded).2.1⟩

/-! ## What stays tracked -/

variable [Regex.Library]

/-- A registration is only dropped by a request to forget it, once its outcome is recorded. -/
theorem tracked_move (policy : RevisitPolicy) (m : Move)
    (there : find? id s.registry.slots = some slot) :
    (find? id (s.move policy m).registry.slots).map Slot.registration = some slot.registration ∨
      m = .forget id ∧ (s.registry.received? slot.registration).isSome = true := by
  have stays : (find? id s.registry.slots).map Slot.registration = some slot.registration := by
    rw [there, Option.map_some]
  cases m with
  | start r =>
    left
    cases known : find? r.executionId s.registry.slots with
    | some other =>
      rw [move, Registry.register_tracked r.workflowId known]
      exact stays
    | none =>
      rw [move, Registry.register_untracked r.workflowId known]
      show (find? id (_ ++ _)).map _ = _
      rw [Registry.find?_append, there, Option.some_or, Option.map_some]
  | status id' => exact .inl stays
  | wait id' => exact .inl stays
  | cancel id' =>
    left
    rw [move]
    split
    next => exact stays
    next asked =>
      rw [← stays]
      exact congrArg (fun slots => (find? id slots).map Slot.registration)
        (Registry.slots_cancel asked)
  | forget id' =>
    by_cases own : id = id'
    · subst own
      cases recorded : s.registry.received? slot.registration with
      | none =>
        left
        rw [move, (Registry.unrecorded there recorded).2.2]
        exact stays
      | some o => exact .inr ⟨rfl, rfl⟩
    · left
      rw [move]
      exact (congrArg _ (Registry.find?_forget s.registry own)).trans stays
  | task i answer =>
    left
    rw [move]
    split
    next t known =>
      exact (s.registry.registration_serve t.registration answer t.rest id).trans stays
    next => exact stays

/-- A registration stays tracked until its run is forgotten. -/
theorem tracked_moves (policy : RevisitPolicy) {ms : List Move}
    (there : find? id s.registry.slots = some slot) (kept : .forget id ∉ ms) :
    ∃ slot', find? id (s.moves policy ms).registry.slots = some slot' ∧
      slot'.registration = slot.registration := by
  induction ms generalizing s slot with
  | nil => exact ⟨slot, there, rfl⟩
  | cons m ms ih =>
    rw [List.mem_cons, not_or] at kept
    rcases tracked_move policy m there with stays | ⟨own, _⟩
    · obtain ⟨slot₁, there₁, same₁⟩ := Option.map_eq_some_iff.mp stays
      obtain ⟨slot', there', same'⟩ := ih there₁ kept.2
      exact ⟨slot', there', same'.trans same₁⟩
    · exact absurd own.symm kept.1

/-! ## What clients are told -/

/-- What clients are told in a state, and after any further moves. -/
structure Reported (policy : RevisitPolicy) (s : Runs) : Prop where
  /-- A run under an id that is tracked is refused, and nothing changes. -/
  refused : ∀ (r : RunRequest) (slot : Slot), find? r.executionId s.registry.slots = some slot →
    s.registry.register r.executionId r.workflowId =
        .error (.orchestration ("Execution '" ++ r.executionId ++ "' already exists")) ∧
      s.move policy (.start r) = s
  /-- The reports on a registration go forward, and an end stays as it is. -/
  forward : ∀ (ms : List Move) (id : String) (slot slot' : Slot),
    find? id s.registry.slots = some slot →
    find? id (s.moves policy ms).registry.slots = some slot' →
    slot'.registration = slot.registration →
    ∃ a b, s.registry.report id = .ok a ∧ (s.moves policy ms).registry.report id = .ok b ∧
      a.status.rank ≤ b.status.rank ∧ (a.status.isTerminal = true → b = a)
  /-- Until its run is forgotten, an end is what every later report says. -/
  lasting : ∀ (ms : List Move) (id : String) (a : StatusReport),
    s.registry.report id = .ok a → a.status.isTerminal = true → .forget id ∉ ms →
    (s.moves policy ms).registry.report id = .ok a
  /-- An end comes with an outcome, and with an error just if the run failed. -/
  ended : ∀ (id : String) (a : StatusReport),
    s.registry.report id = .ok a → a.status.isTerminal = true →
    (∃ o, a.result = some o ∧ o.status = a.status ∧ o.error = a.error) ∧
      (a.error.isSome = true ↔ a.status = .failed)
  /-- The last step of a task records its outcome for its own registration. -/
  finished : ∀ (i : Nat) (t : RunTask) (o : Outcome) (answer : Except RunError NodeResult),
    s.tasks[i]? = some (some t) → t.rest = .done o →
    ∃ slot, find? t.request.executionId (s.move policy (.task i answer)).registry.slots = some slot ∧
      slot.registration = t.registration ∧
      (s.move policy (.task i answer)).registry.received? slot.registration = some o
  /-- A tracked execution agrees with the outcome that is recorded for it. -/
  agrees : ∀ (id : String) (slot : Slot) (o : Outcome), find? id s.registry.slots = some slot →
    s.registry.received? slot.registration = some o → o.executionId = id ∧ slot.execution.Records o
  /-- A request to forget a run is granted just if its outcome is recorded. -/
  forgotten : ∀ id, (s.registry.forget id).2 = true ↔
    ∃ slot, find? id s.registry.slots = some slot ∧
      (s.registry.received? slot.registration).isSome = true
  /-- No other move drops a registration. -/
  dropped : ∀ (m : Move) (id : String) (slot : Slot), find? id s.registry.slots = some slot →
    (find? id (s.move policy m).registry.slots).map Slot.registration ≠ some slot.registration →
    m = .forget id ∧ (s.registry.received? slot.registration).isSome = true
  /-- A request to stop is accepted just if the run is tracked and has no outcome. -/
  canceled : ∀ id, (∃ g, s.registry.cancel id = .ok (g, true)) ↔
    ∃ slot, find? id s.registry.slots = some slot ∧
      s.registry.received? slot.registration = none

/-- Clients are told so wherever the moves keep the runs. -/
theorem Kept.reported (h : s.Kept) (policy : RevisitPolicy) : s.Reported policy where
  refused r slot there := by
    have refused := Registry.register_tracked r.workflowId there
    exact ⟨refused, by rw [Runs.move, refused]⟩
  forward ms id slot slot' there there' same := by
    obtain ⟨h', later⟩ := h.moves policy ms
    exact ⟨_, _, h.report there, h'.report there', h.report_forward h' later there there' same⟩
  lasting ms id a reported ended kept := by
    obtain ⟨slot, there⟩ := Registry.tracked_of_report reported
    obtain ⟨slot', there', same⟩ := tracked_moves policy there kept
    obtain ⟨h', later⟩ := h.moves policy ms
    have forward := (h.report_forward h' later there there' same).2
    cases (h.report there).symm.trans reported
    rw [h'.report there', forward ended]
  ended id a reported ended := by
    obtain ⟨slot, there⟩ := Registry.tracked_of_report reported
    cases (h.report there).symm.trans reported
    obtain ⟨o, recorded, _, final⟩ := h.report_terminal there ended
    rw [recorded]
    exact ⟨⟨o, rfl, rfl, rfl⟩, final.failed⟩
  finished i t o answer there last := by
    obtain ⟨slot, tracked⟩ := h.tracked there
    have own := (last ▸ tracked.phase).done.1
    obtain ⟨slot', there', same, recorded⟩ := Registry.finish_recorded (own ▸ tracked.found)
    rw [Runs.move, there]
    dsimp only
    rw [last]
    exact ⟨slot', own ▸ there', same.trans tracked.registration, same ▸ recorded⟩
  agrees id slot o there recorded := by
    obtain ⟨own, _, records⟩ := h.sound.recorded there recorded
    exact ⟨own, records⟩
  forgotten id := h.forget_iff id
  dropped m id slot there gone := (tracked_move policy m there).resolve_left gone
  canceled id := h.cancel_iff id

end Runs

/-- **Clients are told the same story of a run**, however calls and steps of tasks interleave: the
reports on a run go forward to one end, which stays until the run is forgotten. An engine is one
interleaving of its runs. -/
theorem runs_reported [Regex.Library] [Web.Library] (policy : RevisitPolicy) :
    (∀ ms, (Runs.idle.moves policy ms).Reported policy) ∧
    ∀ (network : Web.Network) (c : Config) (session : Session) (e e' e'' : Engine),
      Engine.open network c session = .opened e → c.engine.revisitPolicy = policy →
      e.Reaches e' → e'.Reaches e'' →
      ∃ ms ms', e'.registry = (Runs.idle.moves policy ms).registry ∧
        e''.registry = ((Runs.idle.moves policy ms).moves policy ms').registry := by
  refine ⟨fun ms => (Runs.kept_idle.moves policy ms).1.reported policy, ?_⟩
  rintro network c session e e' e'' opened rfl reaches further
  obtain ⟨ms, h⟩ := reaches.interleaved (Engine.interleaves_open opened)
  obtain ⟨ms', h'⟩ := further.interleaved h
  exact ⟨ms, ms', h.scheduler.registry, h'.scheduler.registry⟩

/-- A run that is started, and then goes on to its end. -/
theorem runs_reported_started :
    let r : RunRequest := ⟨"w", "e", [⟨"a", "", none, none, .start⟩], [], none⟩
    ∃ e e', Engine.open (fun _ => none) Config.default (Session.start .fresh) = .opened e ∧
      e.start r = .ok e' ∧
      ∃ ms ms', e'.registry = (Runs.idle.moves .fail ms).registry ∧
        e'.settle.registry = ((Runs.idle.moves .fail ms).moves .fail ms').registry := by
  intro r
  refine ⟨_, _, rfl, rfl, ?_⟩
  exact (runs_reported .fail).2 (fun _ => none) Config.default (Session.start .fresh) _ _ _ rfl rfl
    (.start r .refl rfl) (.settle .refl)

end Automation
