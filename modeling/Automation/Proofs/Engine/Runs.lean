import Automation.Proofs.Engine.Course

/-!
# Clients and runs

Clients start runs, ask about them, cancel them, wait for them and forget them, while the tasks of
the runs take one step after another: `Runs` is the registry with what is left of each task, and a
`Move` is a call or a step. Any moves in a row are an interleaving.

What every move keeps is `Runs.Kept`: the registry is sound, and a task that is not at its end is the
only one of its registration, is tracked and has no outcome yet. So every move leads to a later
registry, and what clients are told fits together (`runs_reported`).
-/

namespace Automation

open Registry (find? changed)

/-- The task of a registered run, and what is left of it. -/
structure RunTask where
  registration : Nat
  request : RunRequest
  rest : Course Outcome

/-- The registry with the tasks of its runs. -/
structure Runs where
  registry : Registry
  tasks : List (Option RunTask)

/-- A call of a client, or a step of a task. If the task asks for a node to be handled, an answer is
given with the step. -/
inductive Move where
  | start (r : RunRequest)
  | status (id : String)
  | cancel (id : String)
  | forget (id : String)
  | wait (id : String)
  | task (i : Nat) (answer : Except RunError NodeResult)

/-- One request of a run to its services: what it leaves of the run, or nothing when the run is over
and its outcome is recorded. -/
def Registry.serve (g : Registry) (registration : Nat) (answer : Except RunError NodeResult) :
    Course Outcome → Registry × Option (Course Outcome)
  | .done o => (g.finish o, none)
  | .check next => (g, some (next (g.isCanceled registration)))
  | .handle _ _ next => (g, some (next answer))
  | .emit _ next => (g, some next)
  | .publish u next =>
    match g.publish u with
    | .ok g => (g, some (next (.ok ())))
    | .error e => (g, some (next (.error e)))

namespace Runs

/-- No runs. -/
def idle : Runs := ⟨.empty, []⟩

/-- What a move does. To ask for the status of a run or to begin to wait for it changes nothing. -/
def move [Regex.Library] (policy : RevisitPolicy) (m : Move) (s : Runs) : Runs :=
  match m with
  | .start r =>
    match s.registry.register r.executionId r.workflowId with
    | .error _ => s
    | .ok (registry, registration) =>
      ⟨registry, s.tasks ++ [some ⟨registration, r, r.run Course.services policy⟩]⟩
  | .status _ => s
  | .cancel id =>
    match s.registry.cancel id with
    | .error _ => s
    | .ok (registry, _) => { s with registry }
  | .forget id => { s with registry := (s.registry.forget id).1 }
  | .wait _ => s
  | .task i answer =>
    match s.tasks[i]? with
    | some (some t) =>
      let (registry, rest) := s.registry.serve t.registration answer t.rest
      ⟨registry, s.tasks.set i (rest.map fun rest => { t with rest })⟩
    | _ => s

/-- What some moves in a row do. -/
def moves [Regex.Library] (policy : RevisitPolicy) (ms : List Move) (s : Runs) : Runs :=
  ms.foldl (fun s m => s.move policy m) s

theorem moves_append [Regex.Library] (policy : RevisitPolicy) (ms ms' : List Move) (s : Runs) :
    s.moves policy (ms ++ ms') = (s.moves policy ms).moves policy ms' :=
  List.foldl_append

/-! ## What moves keep -/

/-- A task that is not at its end is tracked, has no outcome, and its execution stands where its
updates brought it. -/
structure Tracked (g : Registry) (t : RunTask) (slot : Slot) : Prop where
  found : find? t.request.executionId g.slots = some slot
  registration : slot.registration = t.registration
  unrecorded : g.received? t.registration = none
  phase : Phase t.request t.rest slot.execution

/-- What every move keeps. -/
structure Kept (s : Runs) : Prop where
  sound : s.registry.Sound
  tracked : ∀ {i : Nat} {t : RunTask}, s.tasks[i]? = some (some t) →
    ∃ slot, Tracked s.registry t slot
  /-- A registration has one task. -/
  alone : ∀ {i j : Nat} {t t' : RunTask}, s.tasks[i]? = some (some t) →
    s.tasks[j]? = some (some t') → t.registration = t'.registration → i = j

theorem kept_idle : Kept idle where
  sound := Registry.sound_empty
  tracked there := by cases there
  alone there := by cases there

section

variable {s : Runs} (h : s.Kept)
include h

/-! ## Calls of clients -/

/-- A new run is tracked under a new registration, which it has the only task of. -/
theorem Kept.start [Regex.Library] (policy : RevisitPolicy) (r : RunRequest) :
    (s.move policy (.start r)).Kept ∧ s.registry.Later (s.move policy (.start r)).registry := by
  cases known : find? r.executionId s.registry.slots with
  | some slot =>
    rw [move, Registry.register_tracked r.workflowId known]
    exact ⟨h, .refl _⟩
  | none =>
    rw [move, Registry.register_untracked r.workflowId known]
    obtain ⟨sound, later⟩ := h.sound.register r.executionId r.workflowId
    have task {i : Nat} {t : RunTask} (there : (s.tasks ++
        [some ⟨s.registry.next, r, r.run Course.services policy⟩])[i]? = some (some t)) :
        s.tasks[i]? = some (some t) ∨ i = s.tasks.length ∧
          t = ⟨s.registry.next, r, r.run Course.services policy⟩ := by
      rcases Nat.lt_or_ge i s.tasks.length with less | more
      · rw [List.getElem?_append_left less] at there
        exact .inl there
      · rw [List.getElem?_append_right more, List.getElem?_singleton] at there
        split at there
        next first => exact .inr ⟨by omega, (Option.some.inj (Option.some.inj there)).symm⟩
        next => cases there
    have old {i : Nat} {t : RunTask} (there : s.tasks[i]? = some (some t)) :
        t.registration ≠ s.registry.next := by
      obtain ⟨slot, tracked⟩ := h.tracked there
      exact tracked.registration ▸ Nat.ne_of_lt (h.sound.numbered tracked.found)
    refine ⟨⟨sound, ?_, ?_⟩, later⟩
    · intro i t there
      rcases task there with there | ⟨_, rfl⟩
      · obtain ⟨slot, tracked⟩ := h.tracked there
        refine ⟨slot, { tracked with found := ?_ }⟩
        rw [Registry.find?_append, tracked.found, Option.some_or]
      · refine ⟨⟨s.registry.next, .pending r.executionId r.workflowId⟩, ?_, rfl,
          h.sound.received?_next, phase_run policy r _ _⟩
        rw [Registry.find?_append, known, if_pos rfl]
        rfl
    · intro i j t t' there there' same
      rcases task there with there | ⟨rfl, rfl⟩ <;> rcases task there' with there' | ⟨rfl, rfl⟩
      · exact h.alone there there' same
      · exact absurd same (old there)
      · exact absurd same.symm (old there')
      · rfl

/-- To ask a run to stop changes nothing that is known of it. -/
theorem Kept.cancel [Regex.Library] (policy : RevisitPolicy) (id : String) :
    (s.move policy (.cancel id)).Kept ∧ s.registry.Later (s.move policy (.cancel id)).registry := by
  cases known : find? id s.registry.slots with
  | none =>
    rw [move, (Registry.untracked known).2.1]
    exact ⟨h, .refl _⟩
  | some slot =>
    cases recorded : s.registry.received? slot.registration with
    | none =>
      rw [move, (Registry.unrecorded known recorded).2.1]
      obtain ⟨sound, later⟩ := h.sound.asked (slot.registration :: s.registry.canceled)
      exact ⟨⟨sound, fun there => (h.tracked there).imp fun _ tracked => { tracked with }, h.alone⟩,
        later⟩
    | some o =>
      rw [move, (Registry.recorded known recorded (h.sound.recorded known recorded).2.1).2.1]
      exact ⟨h, .refl _⟩

/-- Only a run with an outcome is dropped, which has no task any more. -/
theorem Kept.forget [Regex.Library] (policy : RevisitPolicy) (id : String) :
    (s.move policy (.forget id)).Kept ∧ s.registry.Later (s.move policy (.forget id)).registry := by
  cases known : find? id s.registry.slots with
  | none =>
    rw [move, (Registry.untracked known).2.2]
    exact ⟨h, .refl _⟩
  | some slot =>
    cases recorded : s.registry.received? slot.registration with
    | none =>
      rw [move, (Registry.unrecorded known recorded).2.2]
      exact ⟨h, .refl _⟩
    | some o =>
      rw [move, (Registry.recorded known recorded (h.sound.recorded known recorded).2.1).2.2]
      obtain ⟨sound, later⟩ := h.sound.dropped id
      refine ⟨⟨sound, ?_, h.alone⟩, later⟩
      intro i t there
      obtain ⟨slot', tracked⟩ := h.tracked there
      refine ⟨slot', { tracked with found := ?_ }⟩
      have other : t.request.executionId ≠ id := by
        intro own
        have same := tracked.found
        rw [own, known, Option.some.injEq] at same
        subst same
        rw [tracked.registration, tracked.unrecorded] at recorded
        cases recorded
      rw [Registry.find?_filter, if_neg other, tracked.found]

/-! ## Steps of tasks -/

variable {i : Nat} {t : RunTask} (there : s.tasks[i]? = some (some t)) {slot : Slot}
  (tracked : Tracked s.registry t slot)
include there tracked

/-- A step of a task, if it leaves every other task tracked. -/
theorem Kept.step {registry : Registry} {task : Option RunTask} (sound : registry.Sound)
    (own : ∀ t', task = some t' →
      t'.registration = t.registration ∧ ∃ slot', Tracked registry t' slot')
    (others : ∀ {t' : RunTask} {slot' : Slot}, t'.request.executionId ≠ t.request.executionId →
      t'.registration ≠ t.registration → Tracked s.registry t' slot' → Tracked registry t' slot') :
    Kept ⟨registry, s.tasks.set i task⟩ := by
  have place {j : Nat} {t' : RunTask} (there' : (s.tasks.set i task)[j]? = some (some t')) :
      j = i ∧ task = some t' ∨ j ≠ i ∧ s.tasks[j]? = some (some t') := by
    rw [List.getElem?_set] at there'
    split at there'
    next same =>
      split at there'
      · exact .inl ⟨same.symm, Option.some.inj there'⟩
      · cases there'
    next other => exact .inr ⟨Ne.symm other, there'⟩
  refine ⟨sound, ?_, ?_⟩
  · intro j t' there'
    rcases place there' with ⟨_, same⟩ | ⟨other, there'⟩
    · exact (own t' same).2
    · obtain ⟨slot', tracked'⟩ := h.tracked there'
      refine ⟨slot', others ?_ (fun same => other (h.alone there' there same)) tracked'⟩
      intro sameId
      have same := tracked'.found
      rw [sameId, tracked.found, Option.some.injEq] at same
      subst same
      exact other (h.alone there' there (tracked'.registration.symm.trans tracked.registration))
  · intro j k t₁ t₂ there₁ there₂ same
    rcases place there₁ with ⟨rfl, same₁⟩ | ⟨_, was₁⟩ <;>
      rcases place there₂ with ⟨rfl, same₂⟩ | ⟨_, was₂⟩
    · rfl
    · exact h.alone there was₂ ((own t₁ same₁).1.symm.trans same)
    · exact h.alone was₁ there (same.trans (own t₂ same₂).1)
    · exact h.alone was₁ was₂ same

/-- A step that leaves the registry as it is. -/
theorem Kept.go_on {rest : Course Outcome} (phase : Phase t.request rest slot.execution) :
    Kept { s with tasks := s.tasks.set i (some { t with rest }) } :=
  h.step there tracked h.sound (fun t' same => by
    cases same
    exact ⟨rfl, slot, { tracked with phase }⟩) fun _ _ tracked' => tracked'

/-- A step that moves the execution of its run on. -/
theorem Kept.publish {u : StatusUpdate} {rest : Course Outcome}
    (own : u.executionId = t.request.executionId) (begun : (slot.execution.apply u).status ≠ .pending)
    (phase : Phase t.request rest (slot.execution.apply u)) :
    Kept ⟨{ s.registry with slots := changed u.executionId (·.apply u) s.registry.slots },
        s.tasks.set i (some { t with rest })⟩ ∧
      s.registry.Later
        { s.registry with slots := changed u.executionId (·.apply u) s.registry.slots } := by
  obtain ⟨sound, later⟩ := h.sound.moved tracked.found
    (tracked.registration ▸ tracked.unrecorded) (·.apply u) fun _ => begun
  rw [own]
  refine ⟨h.step there tracked sound (fun t' same => ?_) ?_, later⟩
  · cases same
    refine ⟨rfl, { slot with execution := slot.execution.apply u }, ?_, tracked.registration,
      tracked.unrecorded, phase⟩
    rw [Registry.find?_changed, tracked.found, Option.map_some, if_pos rfl]
  · intro t' slot' otherId _ tracked'
    refine { tracked' with found := ?_ }
    rw [Registry.find?_changed, tracked'.found, Option.map_some, if_neg otherId]

/-- The last step of a task records its outcome. -/
theorem Kept.finish {o : Outcome} (last : t.rest = .done o) :
    Kept ⟨s.registry.finish o, s.tasks.set i none⟩ ∧
      s.registry.Later (s.registry.finish o) := by
  -- The execution knows the end of its run already.
  obtain ⟨own, final, records⟩ := (last ▸ tracked.phase).done
  have unknown := tracked.registration ▸ tracked.unrecorded
  obtain ⟨sound, later⟩ := h.sound.finish tracked.found unknown own final records
  refine ⟨h.step there tracked sound (fun t' same => by cases same) ?_, later⟩
  intro t' slot' _ other tracked'
  refine ⟨?_, tracked'.registration, ?_, tracked'.phase⟩
  · rw [Registry.find?_finish tracked.found own final records, tracked'.found]
  · rw [Registry.finish_tracked o (own ▸ tracked.found)]
    refine (Registry.received?_cons ..).trans ?_
    rw [if_neg (tracked.registration ▸ other), tracked'.unrecorded]

end

/-- A step of a task, whatever it asks for. -/
theorem Kept.task [Regex.Library] {s : Runs} (h : s.Kept) (policy : RevisitPolicy) (i : Nat)
    (answer : Except RunError NodeResult) :
    (s.move policy (.task i answer)).Kept ∧
      s.registry.Later (s.move policy (.task i answer)).registry := by
  cases there : s.tasks[i]? with
  | none =>
    simp only [move, there]
    exact ⟨h, .refl _⟩
  | some task =>
    cases task with
    | none =>
      simp only [move, there]
      exact ⟨h, .refl _⟩
    | some t =>
      obtain ⟨slot, tracked⟩ := h.tracked there
      have phase := tracked.phase
      simp only [move, there]
      cases rest : t.rest with
      | done o => exact h.finish there tracked rest
      | check next => exact ⟨h.go_on there tracked ((rest ▸ phase).check _), .refl _⟩
      | handle n context next => exact ⟨h.go_on there tracked ((rest ▸ phase).handle _), .refl _⟩
      | emit event next => exact ⟨h.go_on there tracked (rest ▸ phase).emit, .refl _⟩
      | publish u next =>
        rw [rest] at phase
        obtain ⟨own, begun, goesOn⟩ := phase.publish
        simp only [Registry.serve, Registry.publish_tracked u (own ▸ tracked.found)]
        exact h.publish there tracked own begun (goesOn _)

/-- **Every move keeps the runs**, and leads to a later registry. -/
theorem Kept.move [Regex.Library] {s : Runs} (h : s.Kept) (policy : RevisitPolicy) (m : Move) :
    (s.move policy m).Kept ∧ s.registry.Later (s.move policy m).registry := by
  cases m with
  | start r => exact h.start policy r
  | status id => exact ⟨h, .refl _⟩
  | cancel id => exact h.cancel policy id
  | forget id => exact h.forget policy id
  | wait id => exact ⟨h, .refl _⟩
  | task i answer => exact h.task policy i answer

/-- Any moves keep the runs, and lead to a later registry. -/
theorem Kept.moves [Regex.Library] {s : Runs} (h : s.Kept) (policy : RevisitPolicy)
    (ms : List Move) :
    (s.moves policy ms).Kept ∧ s.registry.Later (s.moves policy ms).registry := by
  induction ms generalizing s with
  | nil => exact ⟨h, .refl _⟩
  | cons m ms ih =>
    obtain ⟨kept, later⟩ := h.move policy m
    obtain ⟨kept', later'⟩ := ih kept
    exact ⟨kept', later.trans later'⟩

end Runs

end Automation
