import Automation.Proofs.Engine.Telling
import Mathlib.Data.List.ReduceOption

/-!
# One id among the runs

All runs share one registry and one list of tasks. `Runs.lone` is what they hold for one id: its
execution, its outcomes, whether it is asked to stop, and what is left of its task. Moves that
concern another id leave all of that as it is: calls for it (`Runs.Kept.lone_start_other` and its
like) and steps of its task (`Runs.Kept.lone_task_other`). Those that concern the id are its turns:
what they change is known from what is held for it (`Lone.take`).
-/

namespace Automation

open Registry (find? changed)

/-! ## What is held for one id -/

/-- All that was recorded under an id, the last one first. -/
def Registry.outcomesOf (id : String) (g : Registry) : List Outcome :=
  (g.outcomes.map Prod.snd).filter fun o => o.executionId = id

/-- What the registry and the tasks hold for one id. -/
structure Lone where
  execution : Option Execution
  /-- What is recorded for the registration that is tracked. -/
  outcome : Option Outcome
  /-- Whether that registration is asked to stop. -/
  asked : Bool
  /-- All that was recorded under the id, the last one first. -/
  outcomes : List Outcome
  task : Option (RunRequest × Course Outcome)

/-- A move, as the id sees it that it concerns. -/
inductive Turn where
  | start (r : RunRequest)
  | cancel
  | forget
  | step (answer : Except RunError NodeResult)

namespace Lone

/-- What a request of the task changes. -/
def serve (l : Lone) (r : RunRequest) (answer : Except RunError NodeResult) :
    Course Outcome → Lone
  | .done o => { l with outcome := some o, outcomes := o :: l.outcomes, task := none }
  | .check next => { l with task := some (r, next l.asked) }
  | .handle _ _ next => { l with task := some (r, next answer) }
  | .emit _ next => { l with task := some (r, next) }
  | .publish u next =>
    { l with execution := l.execution.map (·.apply u), task := some (r, next (.ok ())) }

/-- What a turn changes. -/
def take [Regex.Library] (policy : RevisitPolicy) (l : Lone) : Turn → Lone
  | .start r =>
    match l.execution with
    | some _ => l
    | none =>
      { l with
        execution := some (.pending r.executionId r.workflowId), outcome := none, asked := false
        task := some (r, r.run Course.services policy) }
  | .cancel =>
    match l.execution, l.outcome with
    | some _, none => { l with asked := true }
    | _, _ => l
  | .forget =>
    match l.outcome with
    | some _ => { l with execution := none, outcome := none, asked := false }
    | none => l
  | .step answer =>
    match l.task with
    | some (r, rest) => l.serve r answer rest
    | none => l

/-- The events that a turn tells. -/
def tells (l : Lone) : Turn → List EventKind
  | .step _ =>
    match l.task with
    | some (_, rest) => rest.tells.map Event.kind
    | none => []
  | _ => []

end Lone

namespace Runs

/-- What is left of the task of an id. -/
def ownTask? (id : String) (s : Runs) : Option RunTask :=
  s.tasks.reduceOption.find? fun t => t.request.executionId = id

/-- What is held for an id. -/
def lone (id : String) (s : Runs) : Lone where
  execution := (find? id s.registry.slots).map Slot.execution
  outcome := (find? id s.registry.slots).bind fun slot => s.registry.received? slot.registration
  asked := (find? id s.registry.slots).any fun slot => s.registry.isCanceled slot.registration
  outcomes := s.registry.outcomesOf id
  task := (s.ownTask? id).map fun t => (t.request, t.rest)

/-- The turn of an id that a move is, if it concerns the id and may change anything. -/
def turn? (id : String) (s : Runs) : Move → Option Turn
  | .start r => if r.executionId = id then some (.start r) else none
  | .cancel other => if other = id then some .cancel else none
  | .forget other => if other = id then some .forget else none
  | .task i answer =>
    match s.tasks[i]? with
    | some (some t) => if t.request.executionId = id then some (.step answer) else none
    | _ => none
  | _ => none

/-- What every move keeps, besides: tasks are courses of their requests, and only registrations that
were given are asked to stop. -/
structure Fit (s : Runs) : Prop where
  courses : ∀ {t : RunTask}, some t ∈ s.tasks → t.rest.Of t.request
  asked : ∀ {n : Nat}, s.registry.isCanceled n = true → n < s.registry.next

theorem fit_idle : Fit idle where
  courses there := by cases there
  asked asked := by cases asked

/-! ## The task of an id -/

variable {s s' : Runs} {id : String} {t : RunTask}

theorem mem_of_ownTask? (own : s.ownTask? id = some t) :
    some t ∈ s.tasks ∧ t.request.executionId = id :=
  ⟨List.reduceOption_mem_iff.mp (List.mem_of_find?_eq_some own),
    by simpa using List.find?_some own⟩

/-- An id has one task, if any. -/
theorem Kept.ownTask?_of_mem (h : s.Kept) (there : some t ∈ s.tasks)
    (own : t.request.executionId = id) : s.ownTask? id = some t := by
  cases found : s.ownTask? id with
  | none =>
    have none := List.find?_eq_none.mp found t (List.reduceOption_mem_iff.mpr there)
    exact absurd own (by simpa using none)
  | some t' =>
    obtain ⟨there', own'⟩ := mem_of_ownTask? found
    obtain ⟨i, here⟩ := List.getElem?_of_mem there
    obtain ⟨j, here'⟩ := List.getElem?_of_mem there'
    obtain ⟨slot, tracked⟩ := h.tracked here
    obtain ⟨slot', tracked'⟩ := h.tracked here'
    -- Both are tracked under the id, so they have one registration.
    have same : some slot' = some slot := by rw [← tracked.found, ← tracked'.found, own, own']
    cases same
    cases h.alone here here' (tracked.registration.symm.trans tracked'.registration)
    exact Option.some.inj (here'.symm.trans here)

/-- What is held for the id of a task is what is left of the task. -/
theorem Kept.task_lone (h : s.Kept) (there : some t ∈ s.tasks) :
    (s.lone t.request.executionId).task = some (t.request, t.rest) := by
  simp [lone, h.ownTask?_of_mem there rfl]

theorem ownTask?_congr (h : s.Kept) (h' : s'.Kept)
    (same : ∀ t : RunTask, t.request.executionId = id → (some t ∈ s'.tasks ↔ some t ∈ s.tasks)) :
    s'.ownTask? id = s.ownTask? id := by
  refine Option.ext fun t => ⟨fun own => ?_, fun own => ?_⟩
  · obtain ⟨there, own⟩ := mem_of_ownTask? own
    exact h.ownTask?_of_mem ((same t own).mp there) own
  · obtain ⟨there, own⟩ := mem_of_ownTask? own
    exact h'.ownTask?_of_mem ((same t own).mpr there) own

/-- An id that is tracked has no task any more once its outcome is recorded. -/
theorem Kept.ownTask?_of_recorded (h : s.Kept) {slot : Slot} {o : Outcome}
    (found : find? id s.registry.slots = some slot)
    (recorded : s.registry.received? slot.registration = some o) : s.ownTask? id = none := by
  cases left : s.ownTask? id with
  | none => rfl
  | some t =>
    obtain ⟨there, own⟩ := mem_of_ownTask? left
    obtain ⟨i, here⟩ := List.getElem?_of_mem there
    obtain ⟨slot', tracked⟩ := h.tracked here
    cases found.symm.trans (own ▸ tracked.found)
    rw [tracked.registration, tracked.unrecorded] at recorded
    cases recorded

/-! ## Moves that concern another id -/

/-- Two registries that hold the same for an id. -/
structure Same (id : String) (g g' : Registry) : Prop where
  slot : find? id g'.slots = find? id g.slots
  received : ∀ slot, find? id g.slots = some slot →
    g'.received? slot.registration = g.received? slot.registration
  canceled : ∀ slot, find? id g.slots = some slot →
    g'.isCanceled slot.registration = g.isCanceled slot.registration
  outcomes : g'.outcomesOf id = g.outcomesOf id

theorem Same.refl (id : String) (g : Registry) : Same id g g :=
  ⟨rfl, fun _ _ => rfl, fun _ _ => rfl, rfl⟩

/-- What is held for an id is known from the registry and from its task. -/
theorem lone_congr (h : s.Kept) (h' : s'.Kept) (same : Same id s.registry s'.registry)
    (tasks : ∀ t : RunTask, t.request.executionId = id →
      (some t ∈ s'.tasks ↔ some t ∈ s.tasks)) : s'.lone id = s.lone id := by
  unfold lone
  rw [same.slot, ownTask?_congr h h' tasks, same.outcomes]
  cases found : find? id s.registry.slots with
  | none => rfl
  | some slot => simp [same.received slot found, same.canceled slot found]

/-- To forget a run drops its slot at most. -/
theorem forget_leaves (g : Registry) (id : String) :
    ∃ slots, (g.forget id).1 = { g with slots } := by
  unfold Registry.forget
  split
  · exact ⟨_, rfl⟩
  · split <;> exact ⟨_, rfl⟩

section

variable [Regex.Library] (policy : RevisitPolicy) (h : s.Kept)
include h

/-- A run that is started under another id. -/
theorem Kept.lone_start_other {r : RunRequest} (other : r.executionId ≠ id) :
    (s.move policy (.start r)).lone id = s.lone id := by
  have kept := (h.start policy r).1
  cases known : find? r.executionId s.registry.slots with
  | some slot => rw [Runs.move, Registry.register_tracked r.workflowId known]
  | none =>
    rw [Runs.move, Registry.register_untracked r.workflowId known] at kept ⊢
    refine lone_congr h kept { Same.refl id s.registry with slot := ?_ } fun t own => ?_
    · rw [Registry.find?_append, if_neg other, Option.or_none]
    · rw [List.mem_append, List.mem_singleton, Option.some.injEq]
      refine or_iff_left fun new => ?_
      subst new
      exact other own

/-- Another id is asked to stop. -/
theorem Kept.lone_cancel_other {other : String} (ne : other ≠ id) :
    (s.move policy (.cancel other)).lone id = s.lone id := by
  have kept := (h.cancel policy other).1
  cases known : find? other s.registry.slots with
  | none => rw [Runs.move, (Registry.untracked known).2.1]
  | some slot =>
    cases recorded : s.registry.received? slot.registration with
    | some o =>
      rw [Runs.move, (Registry.recorded known recorded (h.sound.recorded known recorded).2.1).2.1]
    | none =>
      rw [Runs.move, (Registry.unrecorded known recorded).2.1] at kept ⊢
      refine lone_congr h kept
        { Same.refl id s.registry with canceled := fun slot' found => ?_ } fun _ _ => .rfl
      have apart : slot'.registration ≠ slot.registration :=
        fun same => ne (h.sound.distinct known found same.symm)
      simp [Registry.isCanceled, apart]

/-- Another id is forgotten. -/
theorem Kept.lone_forget_other {other : String} (ne : other ≠ id) :
    (s.move policy (.forget other)).lone id = s.lone id := by
  have kept := (h.forget policy other).1
  have found := s.registry.find?_forget (Ne.symm ne)
  obtain ⟨slots, dropped⟩ := forget_leaves s.registry other
  rw [dropped] at found
  rw [Runs.move, dropped] at kept ⊢
  exact lone_congr h kept { Same.refl id s.registry with slot := found } fun _ _ => .rfl

end

/-! ## Steps of the tasks of other ids -/

/-- What a request of the task of another id leaves in a registry. -/
theorem serve_other {g : Registry} (sound : g.Sound) {slot : Slot} (tracked : Tracked g t slot)
    (other : t.request.executionId ≠ id) (answer : Except RunError NodeResult) :
    Same id g (g.serve t.registration answer t.rest).1 := by
  have phase := tracked.phase
  cases rest : t.rest with
  | done o =>
    obtain ⟨own, final, records⟩ := (rest ▸ phase).done
    have found := Registry.find?_finish tracked.found own final records id
    rw [Registry.serve]
    rw [Registry.finish_tracked o (own ▸ tracked.found)] at found ⊢
    refine { Same.refl id g with slot := found, received := fun slot' found => ?_, outcomes := ?_ }
    · have apart : slot'.registration ≠ slot.registration :=
        fun same => other (sound.distinct tracked.found found same.symm)
      rw [Registry.received?_cons, if_neg apart]
    · have foreign : o.executionId ≠ id := own ▸ other
      simp [Registry.outcomesOf, foreign]
  | publish u next =>
    have own := (rest ▸ phase).publish.1
    simp only [Registry.serve, Registry.publish_tracked u (own ▸ tracked.found)]
    refine { Same.refl id g with slot := ?_ }
    rw [Registry.find?_changed, own]
    simp [Ne.symm other]
  | check next => exact .refl id g
  | handle n context next => exact .refl id g
  | emit event next => exact .refl id g

section

variable [Regex.Library] (policy : RevisitPolicy) (h : s.Kept) {i : Nat}
  (there : s.tasks[i]? = some (some t)) (answer : Except RunError NodeResult)
include h there

/-- A step of the task of another id. -/
theorem Kept.lone_task_other (other : t.request.executionId ≠ id) :
    (s.move policy (.task i answer)).lone id = s.lone id := by
  have kept := (h.task policy i answer).1
  obtain ⟨slot, tracked⟩ := h.tracked there
  have same := serve_other h.sound tracked other answer
  rw [Runs.move, there] at kept ⊢
  refine lone_congr h kept same fun t' own => ⟨fun here => ?_, fun here => ?_⟩
  · rcases List.mem_or_eq_of_mem_set here with old | new
    · exact old
    · obtain ⟨rest, _, same⟩ := Option.map_eq_some_iff.mp new.symm
      subst same
      exact absurd own other
  · obtain ⟨j, here⟩ := List.getElem?_of_mem here
    have apart : i ≠ j := by
      rintro rfl
      cases there.symm.trans here
      exact other own
    exact List.mem_of_getElem? ((List.getElem?_set_ne apart).trans here)

end

/-! ## Steps of the own task -/

/-- What is held for an id that has a task. -/
theorem Kept.lone_tracked (h : s.Kept) (there : some t ∈ s.tasks) {slot : Slot}
    (tracked : Tracked s.registry t slot) :
    s.lone t.request.executionId = ⟨some slot.execution, none,
      s.registry.isCanceled t.registration, s.registry.outcomesOf t.request.executionId,
      some (t.request, t.rest)⟩ := by
  simp [lone, tracked.found, tracked.registration, tracked.unrecorded,
    h.ownTask?_of_mem there rfl]

section

variable (policy : RevisitPolicy) (h : s.Kept) {i : Nat} (there : s.tasks[i]? = some (some t))
  (answer : Except RunError NodeResult)
include h there

omit h in
/-- A step of the own task that does not end it. -/
theorem Kept.lone_going {g : Registry} {rest : Course Outcome} {slot : Slot}
    (kept : Kept ⟨g, s.tasks.set i (some { t with rest })⟩)
    (found : find? t.request.executionId g.slots = some slot)
    (canceled : g.canceled = s.registry.canceled) (outcomes : g.outcomes = s.registry.outcomes) :
    lone t.request.executionId ⟨g, s.tasks.set i (some { t with rest })⟩ =
      ⟨some slot.execution, none, s.registry.isCanceled t.registration,
        s.registry.outcomesOf t.request.executionId, some (t.request, rest)⟩ := by
  have here := getElem?_set_there there (some { t with rest })
  obtain ⟨slot', tracked⟩ := kept.tracked here
  cases found.symm.trans tracked.found
  have after := kept.lone_tracked (List.mem_of_getElem? here) tracked
  simpa [Registry.isCanceled, Registry.outcomesOf, canceled, outcomes] using after

/-- The step that ends the own task. -/
theorem Kept.lone_ended {o : Outcome} (last : t.rest = .done o)
    (kept : Kept ⟨s.registry.finish o, s.tasks.set i none⟩) :
    lone t.request.executionId ⟨s.registry.finish o, s.tasks.set i none⟩ =
      { s.lone t.request.executionId with
        outcome := some o, outcomes := o :: s.registry.outcomesOf t.request.executionId,
        task := none } := by
  obtain ⟨slot, tracked⟩ := h.tracked there
  obtain ⟨own, final, records⟩ := (last ▸ tracked.phase).done
  have found := Registry.find?_finish tracked.found own final records t.request.executionId
  rw [tracked.found] at found
  obtain ⟨received, canceled, outcomes⟩ :
      (s.registry.finish o).received? t.registration = some o ∧
        (s.registry.finish o).isCanceled t.registration = s.registry.isCanceled t.registration ∧
        (s.registry.finish o).outcomesOf t.request.executionId =
          o :: s.registry.outcomesOf t.request.executionId := by
    rw [Registry.finish_tracked o (own ▸ tracked.found), tracked.registration]
    refine ⟨by rw [Registry.received?_cons, if_pos rfl], rfl, ?_⟩
    simp [Registry.outcomesOf, own]
  have gone := kept.ownTask?_of_recorded found (tracked.registration ▸ received)
  rw [h.lone_tracked (List.mem_of_getElem? there) tracked]
  simp [lone, found, gone, tracked.registration, received, canceled, outcomes]

variable [Regex.Library]

/-- A step of the own task is a turn. -/
theorem Kept.lone_task_own : (s.move policy (.task i answer)).lone t.request.executionId =
    (s.lone t.request.executionId).take policy (.step answer) := by
  have kept := (h.task policy i answer).1
  obtain ⟨slot, tracked⟩ := h.tracked there
  have before := h.lone_tracked (List.mem_of_getElem? there) tracked
  have phase := tracked.phase
  have turn : (s.lone t.request.executionId).take policy (.step answer) =
      (s.lone t.request.executionId).serve t.request answer t.rest := by
    rw [before]
    rfl
  rw [turn]
  rw [Runs.move, there] at kept ⊢
  dsimp only at kept ⊢
  cases rest : t.rest with
  | done o =>
    rw [rest] at kept
    have after := h.lone_ended there rest kept
    rw [before] at after ⊢
    exact after
  | check next =>
    rw [rest] at kept
    rw [Lone.serve, before]
    exact kept.lone_going there tracked.found rfl rfl
  | handle n context next =>
    rw [rest] at kept
    rw [Lone.serve, before]
    exact kept.lone_going there tracked.found rfl rfl
  | emit event next =>
    rw [rest] at kept
    rw [Lone.serve, before]
    exact kept.lone_going there tracked.found rfl rfl
  | publish u next =>
    have own := (rest ▸ phase).publish.1
    rw [rest] at kept
    simp only [Registry.serve, Registry.publish_tracked u (own ▸ tracked.found)] at kept ⊢
    have found : find? t.request.executionId
        (changed u.executionId (·.apply u) s.registry.slots) =
          some { slot with execution := slot.execution.apply u } := by
      rw [Registry.find?_changed, tracked.found, own]
      simp
    rw [Lone.serve, before]
    exact kept.lone_going there found rfl rfl

end

/-! ## Calls for the own id -/

/-- An id that is not tracked has no task. -/
theorem Kept.lone_untracked (h : s.Kept) (known : find? id s.registry.slots = none) :
    s.lone id = ⟨none, none, false, s.registry.outcomesOf id, none⟩ := by
  have idle : s.ownTask? id = none := by
    cases own : s.ownTask? id with
    | none => rfl
    | some t =>
      obtain ⟨there, own⟩ := mem_of_ownTask? own
      obtain ⟨i, here⟩ := List.getElem?_of_mem there
      obtain ⟨slot, tracked⟩ := h.tracked here
      cases (own ▸ known).symm.trans tracked.found
  simp [lone, known, idle]

section

variable [Regex.Library] (policy : RevisitPolicy) (h : s.Kept)
include h

/-- A run that is started is a turn of its id. -/
theorem Kept.lone_start_own (fit : s.Fit) (r : RunRequest) :
    (s.move policy (.start r)).lone r.executionId =
      (s.lone r.executionId).take policy (.start r) := by
  cases known : find? r.executionId s.registry.slots with
  | some slot =>
    rw [Runs.move, Registry.register_tracked r.workflowId known]
    simp [lone, Lone.take, known]
  | none =>
    have kept := (h.start policy r).1
    rw [Runs.move, Registry.register_untracked r.workflowId known] at kept ⊢
    dsimp only at kept ⊢
    obtain ⟨slot, tracked⟩ := kept.tracked List.getElem?_concat_length
    have after := kept.lone_tracked (List.mem_append_right _ (List.mem_singleton.mpr rfl)) tracked
    have found := tracked.found
    rw [Registry.find?_append, known, Option.none_or, if_pos rfl, Option.some.injEq] at found
    have unasked : s.registry.isCanceled s.registry.next = false := by
      cases asked : s.registry.isCanceled s.registry.next with
      | false => rfl
      | true => exact absurd (fit.asked asked) (Nat.lt_irrefl _)
    rw [h.lone_untracked known, after, ← found]
    simpa [Lone.take, Registry.isCanceled, Registry.outcomesOf] using unasked

/-- To ask a run to stop is a turn of its id. -/
theorem Kept.lone_cancel_own (id : String) :
    (s.move policy (.cancel id)).lone id = (s.lone id).take policy .cancel := by
  cases known : find? id s.registry.slots with
  | none =>
    rw [Runs.move, (Registry.untracked known).2.1, h.lone_untracked known]
    rfl
  | some slot =>
    cases recorded : s.registry.received? slot.registration with
    | some o =>
      rw [Runs.move, (Registry.recorded known recorded (h.sound.recorded known recorded).2.1).2.1]
      simp [lone, Lone.take, known, recorded]
    | none =>
      rw [Runs.move, (Registry.unrecorded known recorded).2.1]
      have unknown : Registry.received?
          { s.registry with canceled := slot.registration :: s.registry.canceled }
          slot.registration = none := recorded
      simp [lone, Lone.take, known, recorded, unknown, Registry.isCanceled]
      exact ⟨rfl, rfl⟩

/-- To forget a run is a turn of its id. -/
theorem Kept.lone_forget_own (id : String) :
    (s.move policy (.forget id)).lone id = (s.lone id).take policy .forget := by
  have kept := (h.forget policy id).1
  cases known : find? id s.registry.slots with
  | none =>
    rw [Runs.move, (Registry.untracked known).2.2, h.lone_untracked known]
    rfl
  | some slot =>
    cases recorded : s.registry.received? slot.registration with
    | none =>
      rw [Runs.move, (Registry.unrecorded known recorded).2.2]
      simp [lone, Lone.take, known, recorded]
    | some o =>
      rw [Runs.move, (Registry.recorded known recorded (h.sound.recorded known recorded).2.1).2.2]
        at kept ⊢
      have dropped : find? id (s.registry.slots.filter fun entry => entry.1 ≠ id) = none := by
        rw [Registry.find?_filter, if_pos rfl]
      have gone := h.ownTask?_of_recorded known recorded
      rw [kept.lone_untracked dropped]
      simp [lone, Lone.take, known, recorded, gone]
      rfl

end

/-! ## What moves keep, besides -/

/-- A request of a task asks no run to stop, and gives no registration. -/
theorem serve_keeps (g : Registry) (n : Nat) (answer : Except RunError NodeResult)
    (rest : Course Outcome) :
    (g.serve n answer rest).1.canceled = g.canceled ∧ (g.serve n answer rest).1.next = g.next := by
  cases rest with
  | done o =>
    simp only [Registry.serve, Registry.finish]
    split <;> exact ⟨rfl, rfl⟩
  | publish u next =>
    cases known : find? u.executionId g.slots with
    | none =>
      simp only [Registry.serve, Registry.publish, Registry.slot, known]
      exact ⟨rfl, rfl⟩
    | some slot =>
      simp only [Registry.serve, Registry.publish_tracked u known]
      exact ⟨trivial, trivial⟩
  | check next => exact ⟨rfl, rfl⟩
  | handle node context next => exact ⟨rfl, rfl⟩
  | emit event next => exact ⟨rfl, rfl⟩

/-- A step of a task that is over is none. -/
theorem task_gone [Regex.Library] (policy : RevisitPolicy) {i : Nat}
    (gone : ¬∃ t, s.tasks[i]? = some (some t)) (answer : Except RunError NodeResult) :
    s.move policy (.task i answer) = s ∧ s.tells (.task i answer) = [] := by
  cases there : s.tasks[i]? with
  | none => simp [Runs.move, tells, there]
  | some task =>
    cases task with
    | none => simp [Runs.move, tells, there]
    | some t => exact absurd ⟨t, there⟩ gone

/-- What is left of a course of a request is one. -/
theorem of_serve {g : Registry} {n : Nat} {answer : Except RunError NodeResult}
    {rest rest' : Course Outcome} {r : RunRequest} (h : rest.Of r)
    (left : (g.serve n answer rest).2 = some rest') : rest'.Of r := by
  cases h with
  | done o => cases left
  | check h =>
    cases left
    exact h _
  | handle _ h =>
    cases left
    exact h _
  | emit _ h =>
    cases left
    exact h
  | publish h =>
    simp only [Registry.serve] at left
    split at left <;> cases left <;> exact h _

/-- Every move keeps tasks to their requests, and asks only registrations that were given. -/
theorem Fit.move [Regex.Library] (fit : s.Fit) (h : s.Kept) (policy : RevisitPolicy) (m : Move) :
    (s.move policy m).Fit := by
  cases m with
  | start r =>
    cases known : find? r.executionId s.registry.slots with
    | some slot =>
      rw [Runs.move, Registry.register_tracked r.workflowId known]
      exact fit
    | none =>
      rw [Runs.move, Registry.register_untracked r.workflowId known]
      refine ⟨fun there => ?_, fun asked => Nat.lt_succ_of_lt (fit.asked asked)⟩
      rcases List.mem_append.mp there with old | new
      · exact fit.courses old
      · cases List.mem_singleton.mp new
        exact Course.of_run policy r
  | cancel id =>
    cases known : find? id s.registry.slots with
    | none =>
      rw [Runs.move, (Registry.untracked known).2.1]
      exact fit
    | some slot =>
      cases recorded : s.registry.received? slot.registration with
      | some o =>
        rw [Runs.move, (Registry.recorded known recorded (h.sound.recorded known recorded).2.1).2.1]
        exact fit
      | none =>
        rw [Runs.move, (Registry.unrecorded known recorded).2.1]
        refine ⟨fit.courses, fun {n} asked => ?_⟩
        by_cases own : n = slot.registration
        · exact own ▸ h.sound.numbered known
        · refine fit.asked ?_
          simpa [Registry.isCanceled, own] using asked
  | forget id =>
    obtain ⟨slots, dropped⟩ := forget_leaves s.registry id
    rw [Runs.move, dropped]
    exact ⟨fit.courses, fit.asked⟩
  | task i answer =>
    by_cases there : ∃ t, s.tasks[i]? = some (some t)
    · obtain ⟨t, there⟩ := there
      obtain ⟨canceled, next⟩ := serve_keeps s.registry t.registration answer t.rest
      rw [Runs.move, there]
      refine ⟨fun {t'} there' => ?_, fun {n} asked => ?_⟩
      · rcases List.mem_or_eq_of_mem_set there' with old | new
        · exact fit.courses old
        · obtain ⟨rest, left, same⟩ := Option.map_eq_some_iff.mp new.symm
          subst same
          show Course.Of t.request rest
          exact of_serve (fit.courses (List.mem_of_getElem? there)) left
      · refine Nat.lt_of_lt_of_eq (fit.asked ?_) next.symm
        rw [Registry.isCanceled, ← canceled]
        exact asked
    · rw [(task_gone policy there answer).1]
      exact fit
  | status id => exact fit
  | wait id => exact fit

end Runs

end Automation
