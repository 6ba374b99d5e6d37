import Automation.Proofs.Engine.Lone

/-!
# The schedule of an id

What is left of an interleaving when all moves are taken away that concern other ids is the schedule
of an id: when its run was started, canceled and forgotten between the steps of its task. The
schedule is all that matters for what is held for the id and for the events that it tells
(`Runs.lone_moves`), and the id can have the same schedule alone (`Runs.exists_alone`).
-/

namespace Automation

namespace Lone

variable [Regex.Library] [Web.Library]

/-! ## Turns in a row -/

/-- What some turns in a row change. -/
def takes (policy : RevisitPolicy) (l : Lone) (turns : List Turn) : Lone :=
  turns.foldl (take policy) l

/-- The events that some turns in a row tell. -/
def told (policy : RevisitPolicy) : List Turn → Lone → List EventKind
  | [], _ => []
  | turn :: turns, l => l.tells turn ++ told policy turns (l.take policy turn)

/-- Whether a turn answers a node that is to be handled as the dispatcher may. -/
def Answered (d : Dispatcher) (l : Lone) : Turn → Prop
  | .step answer => ∀ r n context next, l.task = some (r, .handle n context next) →
    (d.execute n context).Yields answer
  | _ => True

/-- Whether some turns in a row do. -/
def Honest (d : Dispatcher) (policy : RevisitPolicy) : List Turn → Lone → Prop
  | [], _ => True
  | turn :: turns, l => l.Answered d turn ∧ Honest d policy turns (l.take policy turn)

end Lone

namespace Runs

variable {d : Dispatcher} {policy : RevisitPolicy} {s s' : Runs} {id : String}

/-! ## Turns and moves -/

/-- A move that is a turn of an id. -/
inductive Concerns (id : String) (s : Runs) : Move → Turn → Prop where
  | start {r : RunRequest} (own : r.executionId = id) : Concerns id s (.start r) (.start r)
  | cancel : Concerns id s (.cancel id) .cancel
  | forget : Concerns id s (.forget id) .forget
  | step {i : Nat} {t : RunTask} (there : s.tasks[i]? = some (some t))
    (own : t.request.executionId = id) (answer : Except RunError NodeResult) :
    Concerns id s (.task i answer) (.step answer)

theorem turn?_eq_some {m : Move} {turn : Turn} :
    s.turn? id m = some turn ↔ Concerns id s m turn := by
  refine ⟨fun own => ?_, fun own => ?_⟩
  · unfold turn? at own
    split at own
    next r =>
      split at own
      next same => cases own; exact .start same
      next => cases own
    next other =>
      split at own
      next same => cases own; exact same ▸ .cancel
      next => cases own
    next other =>
      split at own
      next same => cases own; exact same ▸ .forget
      next => cases own
    next i answer =>
      split at own
      next t there =>
        split at own
        next same => cases own; exact .step there same answer
        next => cases own
      next => cases own
    next => cases own
  · cases own with
    | start own => exact if_pos own
    | cancel => exact if_pos rfl
    | forget => exact if_pos rfl
    | step there own answer =>
      rw [turn?, there]
      exact if_pos own

variable [Regex.Library]

section

variable (h : s.Kept) (fit : s.Fit) (policy : RevisitPolicy) {m : Move}
include h fit

/-- **A turn of an id** changes what is held for it and tells its events. -/
theorem Concerns.turn {turn : Turn} (own : Concerns id s m turn) :
    (s.move policy m).lone id = (s.lone id).take policy turn ∧
      eventsOf id (s.tells m) = (s.lone id).tells turn := by
  cases own with
  | @start r own =>
    subst own
    exact ⟨h.lone_start_own policy fit r, rfl⟩
  | cancel => exact ⟨h.lone_cancel_own policy id, rfl⟩
  | forget => exact ⟨h.lone_forget_own policy id, rfl⟩
  | @step i t there own answer =>
    subst own
    refine ⟨h.lone_task_own policy there answer, ?_⟩
    have mem := List.mem_of_getElem? there
    have events := (fit.courses mem).tells
    have all : t.rest.tells.filter (fun e => e.executionId = t.request.executionId) =
        t.rest.tells := List.filter_eq_self.mpr fun e there => by simpa using events e there
    rw [tells, there, Lone.tells, h.task_lone mem]
    simp [eventsOf, all]

/-- **A move that concerns another id** changes nothing that is held for it and tells none of its
events. -/
theorem unconcerned (other : s.turn? id m = none) :
    (s.move policy m).lone id = s.lone id ∧ eventsOf id (s.tells m) = [] := by
  have apart {own : String} {turn : Turn} (none : (if own = id then some turn else none) = none) :
      own ≠ id := fun same => by simp [same] at none
  cases m with
  | start r => exact ⟨h.lone_start_other policy (apart other), rfl⟩
  | cancel id' => exact ⟨h.lone_cancel_other policy (apart other), rfl⟩
  | forget id' => exact ⟨h.lone_forget_other policy (apart other), rfl⟩
  | task i answer =>
    by_cases there : ∃ t, s.tasks[i]? = some (some t)
    · obtain ⟨t, there⟩ := there
      rw [turn?, there] at other
      refine ⟨h.lone_task_other policy there answer (apart other), ?_⟩
      have events := (fit.courses (List.mem_of_getElem? there)).tells
      have none : t.rest.tells.filter (fun e => e.executionId = id) = [] :=
        List.filter_eq_nil_iff.mpr fun e there => by simpa [events e there] using apart other
      rw [tells, there]
      simp [eventsOf, none]
    · obtain ⟨stays, silent⟩ := task_gone policy there answer
      rw [stays, silent]
      exact ⟨rfl, rfl⟩
  | status id' => exact ⟨rfl, rfl⟩
  | wait id' => exact ⟨rfl, rfl⟩

end

/-! ## Schedules -/

/-- The turns of an id among some moves in a row. -/
def schedule (policy : RevisitPolicy) (id : String) : List Move → Runs → List Turn
  | [], _ => []
  | m :: ms, s => (s.turn? id m).toList ++ schedule policy id ms (s.move policy m)

/-- **The schedule of an id is all that matters for it**: what is held for the id after some moves,
and the events of the id that they tell. -/
theorem lone_moves (h : s.Kept) (fit : s.Fit) (policy : RevisitPolicy) (id : String)
    (ms : List Move) :
    (s.moves policy ms).lone id = (s.lone id).takes policy (schedule policy id ms s) ∧
      eventsOf id (told policy ms s) = Lone.told policy (schedule policy id ms s) (s.lone id) := by
  induction ms generalizing s with
  | nil => exact ⟨rfl, rfl⟩
  | cons m ms ih =>
    obtain ⟨left, events⟩ := ih (h.move policy m).1 (fit.move h policy m)
    have both : eventsOf id (told policy (m :: ms) s) =
        eventsOf id (s.tells m) ++ eventsOf id (told policy ms (s.move policy m)) := by
      simp [told, eventsOf]
    rw [both, events, schedule]
    cases own : s.turn? id m with
    | none =>
      obtain ⟨stays, silent⟩ := unconcerned h fit policy own
      rw [stays] at left
      exact ⟨left, by rw [silent, stays]; rfl⟩
    | some turn =>
      obtain ⟨taken, tells⟩ := (turn?_eq_some.mp own).turn h fit policy
      rw [taken] at left
      exact ⟨left, by rw [tells, taken]; rfl⟩

/-- A run that an id is told to start is started by the moves. -/
theorem start_of_schedule {ms : List Move} {r : RunRequest}
    (there : .start r ∈ schedule policy id ms s) : .start r ∈ ms ∧ r.executionId = id := by
  induction ms generalizing s with
  | nil => cases there
  | cons m ms ih =>
    rcases List.mem_append.mp there with first | later
    · cases turn?_eq_some.mp (Option.mem_toList.mp first) with
      | start own => exact ⟨List.mem_cons_self, own⟩
    · exact (ih later).imp_left (List.mem_cons_of_mem m)

variable [Web.Library]

/-- A move answers as the dispatcher may just if the turn does that it is. -/
theorem Kept.answered_iff (h : s.Kept) {m : Move} {turn : Turn} (own : Concerns id s m turn) :
    s.Answered d m ↔ (s.lone id).Answered d turn := by
  cases own with
  | start own => exact Iff.rfl
  | cancel => exact Iff.rfl
  | forget => exact Iff.rfl
  | step there own answer =>
    subst own
    have task := h.task_lone (List.mem_of_getElem? there)
    constructor
    · intro answered r n context next asks
      obtain ⟨_, rest⟩ := Prod.mk.inj (Option.some.inj (task.symm.trans asks))
      exact answered _ n context next there rest
    · intro answered t' n context next there' asks
      cases there.symm.trans there'
      exact answered _ n context next (asks ▸ task)

/-- The turns of an id among honest moves are honest. -/
theorem Honest.turns (h : s.Kept) (fit : s.Fit) {ms : List Move} (honest : Honest d policy ms s) :
    Lone.Honest d policy (schedule policy id ms s) (s.lone id) := by
  induction ms generalizing s with
  | nil => trivial
  | cons m ms ih =>
    have rest := ih (h.move policy m).1 (fit.move h policy m) honest.2
    rw [Runs.schedule]
    cases own : s.turn? id m with
    | none => rwa [(unconcerned h fit policy own).1] at rest
    | some turn =>
      have concerns := turn?_eq_some.mp own
      rw [(concerns.turn h fit policy).1] at rest
      exact ⟨(h.answered_iff concerns).mp honest.1, rest⟩

end Runs

/-! ## Alone -/

/-- Whether a move calls for no id but one. -/
def Move.For (id : String) : Move → Prop
  | start r => r.executionId = id
  | status other => other = id
  | cancel other => other = id
  | forget other => other = id
  | wait other => other = id
  | task _ _ => True

namespace Runs

variable {d : Dispatcher} {policy : RevisitPolicy} {s s' : Runs} {id : String}

/-- Whatever turn an id takes in one state, it can take in another that holds the same for it. -/
theorem Concerns.elsewhere {m : Move} {turn : Turn} (own : Concerns id s m turn) (h : s.Kept)
    (same : s'.lone id = s.lone id) : ∃ m' : Move, m'.For id ∧ Concerns id s' m' turn := by
  cases own with
  | @start r own => exact ⟨.start r, own, .start own⟩
  | cancel => exact ⟨.cancel id, rfl, .cancel⟩
  | forget => exact ⟨.forget id, rfl, .forget⟩
  | step there own answer =>
    subst own
    have task := congrArg Lone.task same
    rw [h.task_lone (List.mem_of_getElem? there)] at task
    obtain ⟨t', left, _⟩ := Option.map_eq_some_iff.mp task
    obtain ⟨there', own'⟩ := mem_of_ownTask? left
    obtain ⟨j, there'⟩ := List.getElem?_of_mem there'
    exact ⟨.task j answer, trivial, .step there' own' answer⟩

/-- An id can have the same schedule where no other id is called for. -/
theorem exists_alone [Regex.Library] [Web.Library] (h : s.Kept) (fit : s.Fit) (h' : s'.Kept)
    (fit' : s'.Fit) (same : s'.lone id = s.lone id) {ms : List Move}
    (honest : Honest d policy ms s) :
    ∃ alone : List Move, (∀ m ∈ alone, m.For id) ∧ Honest d policy alone s' ∧
      schedule policy id alone s' = schedule policy id ms s := by
  induction ms generalizing s s' with
  | nil => exact ⟨[], List.forall_mem_nil _, trivial, rfl⟩
  | cons m ms ih =>
    have h₁ := (h.move policy m).1
    have fit₁ := fit.move h policy m
    cases own : s.turn? id m with
    | none =>
      have stays := same.trans (unconcerned h fit policy own).1.symm
      obtain ⟨alone, all, honest', turns⟩ := ih h₁ fit₁ h' fit' stays honest.2
      refine ⟨alone, all, honest', ?_⟩
      rw [turns, schedule, own]
      rfl
    | some turn =>
      have concerns := turn?_eq_some.mp own
      obtain ⟨m', own', concerns'⟩ := concerns.elsewhere h same
      have there := turn?_eq_some.mpr concerns'
      have after : (s'.move policy m').lone id = (s.move policy m).lone id := by
        rw [(concerns'.turn h' fit' policy).1, (concerns.turn h fit policy).1, same]
      obtain ⟨alone, all, honest', turns⟩ :=
        ih h₁ fit₁ (h'.move policy m').1 (fit'.move h' policy m') after honest.2
      have answered : s'.Answered d m' := by
        rw [h'.answered_iff concerns', same, ← h.answered_iff concerns]
        exact honest.1
      refine ⟨m' :: alone, List.forall_mem_cons.mpr ⟨own', all⟩, ⟨answered, honest'⟩, ?_⟩
      rw [schedule, schedule, own, there, turns]

end Runs

end Automation
