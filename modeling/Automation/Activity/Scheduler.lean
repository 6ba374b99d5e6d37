import Automation.Activity.Basic

/-!
# The scheduler

Tasks are activities that share a state, a clock and a lock. They run one at a time, each until it
pauses. Those that can go on do so in the order in which they became ready; one that lets others go
first comes after all of them. Time goes on only when every task waits, and then at once to the
earliest deadline. The lock is handed to whoever has waited for it longest.

Every turn leaves less of one task, so all of them come to an end.
-/

namespace Automation

/-- Tasks, and what each of them waits for. A task has the number of its place. -/
structure Scheduler (σ : Type) where
  shared : σ
  /-- The time in milliseconds. -/
  now : Nat
  /-- What is left of the tasks. -/
  tasks : List (Option (Activity σ Unit))
  ready : List Nat
  yielded : List Nat
  /-- Deadlines with the tasks that wait for them, in the order of the deadlines. -/
  sleeping : List (Nat × Nat)
  isLocked : Bool
  /-- Who waits for the lock. -/
  queue : List Nat

namespace Scheduler

/-- No tasks. -/
def start (shared : σ) : Scheduler σ := ⟨shared, 0, [], [], [], [], false, []⟩

/-- Adds a task, which is ready. -/
def spawn (a : Activity σ Unit) (s : Scheduler σ) : Scheduler σ :=
  { s with tasks := s.tasks ++ [some a], ready := s.ready ++ [s.tasks.length] }

/-- Puts a task among the sleeping ones, behind those of the same deadline. -/
def insertSleeper (deadline i : Nat) : List (Nat × Nat) → List (Nat × Nat)
  | [] => [(deadline, i)]
  | (t, j) :: rest =>
    if t ≤ deadline then (t, j) :: insertSleeper deadline i rest else (deadline, i) :: (t, j) :: rest

/-- What a pause of a task does. -/
def pause (reason : Pause) (i : Nat) (s : Scheduler σ) : Scheduler σ :=
  match reason with
  | .sleep ms => { s with sleeping := insertSleeper (s.now + ms) i s.sleeping }
  | .yield => { s with yielded := s.yielded ++ [i] }
  | .lock =>
    if s.isLocked then { s with queue := s.queue ++ [i] }
    else { s with isLocked := true, ready := i :: s.ready }
  | .unlock =>
    match s.queue with
    | [] => { s with isLocked := false, ready := i :: s.ready }
    | j :: rest => { s with queue := rest, ready := i :: s.ready ++ [j] }

/-- Lets a task go on to its next pause. -/
def turn (i : Nat) (s : Scheduler σ) : Scheduler σ :=
  match s.tasks[i]? with
  | some (some a) =>
    match a.advance s.shared with
    | (.finished _, shared) => { s with shared, tasks := s.tasks.set i none }
    | (.paused reason rest, shared) =>
      pause reason i { s with shared, tasks := s.tasks.set i (some rest) }
  | _ => s

/-- Adds a task and lets it go on at once. -/
def enter (a : Activity σ Unit) (s : Scheduler σ) : Scheduler σ :=
  turn s.tasks.length { s with tasks := s.tasks ++ [some a] }

/-- Lets time go on to the earliest deadline. -/
def wake? (s : Scheduler σ) : Option (Scheduler σ) :=
  match s.sleeping with
  | [] => none
  | (t, i) :: rest =>
    some { s with
      now := max s.now t
      ready := i :: (rest.takeWhile fun sleeper => sleeper.1 == t).map Prod.snd
      sleeping := rest.dropWhile fun sleeper => sleeper.1 == t }

/-- The next turn. When all tasks wait, time goes on unless it is enough. -/
def next? (enough : Scheduler σ → Bool) (s : Scheduler σ) : Option (Scheduler σ) :=
  match s.ready with
  | i :: rest => some (turn i { s with ready := rest })
  | [] =>
    match s.yielded with
    | i :: rest => some (turn i { s with ready := rest, yielded := [] })
    | [] => if enough s then none else s.wake?

end Scheduler

/-! ## Every task comes to an end -/

/-- What is left of an activity after its first pause, whatever the state is. -/
inductive Activity.Remains : Activity σ α → Activity σ α → Prop where
  | read {rest} {next : σ → Activity σ α} (s : σ) (h : Remains rest (next s)) :
    Remains rest (.read next)
  | write {rest next} (change : σ → σ) (h : Remains rest next) : Remains rest (.write change next)
  | pause (reason : Pause) (next : Activity σ α) : Remains next (.pause reason next)

namespace Activity

/-- What `advance` leaves is a remainder. -/
theorem remains_of_advance {a rest : Activity σ α} {s s' : σ} {reason : Pause}
    (h : a.advance s = (.paused reason rest, s')) : Remains rest a := by
  induction a generalizing s with
  | done a => simp [advance] at h
  | read next ih => exact .read s (ih s (by simpa [advance] using h))
  | write change next ih => exact .write change (ih (by simpa [advance] using h))
  | pause reason' next ih =>
    simp only [advance, Prod.mk.injEq, Progress.paused.injEq] at h
    obtain ⟨⟨_, rfl⟩, _⟩ := h
    exact .pause reason' next

/-- An activity has no endless chain of remainders. -/
theorem acc_remains (a : Activity σ α) : Acc Remains a := by
  have remainders : ∀ rest, Remains rest a → Acc Remains rest := by
    induction a with
    | done a => intro rest h; cases h
    | read next ih => intro rest h; cases h with | read s h => exact ih s rest h
    | write change next ih => intro rest h; cases h with | write _ h => exact ih rest h
    | pause reason next ih => intro rest h; cases h; exact ⟨_, ih⟩
  exact ⟨_, remainders⟩

end Activity

namespace Scheduler

/-- Less is left of a task: a remainder, or nothing. -/
inductive Less : Option (Activity σ Unit) → Option (Activity σ Unit) → Prop where
  | finished (a : Activity σ Unit) : Less none (some a)
  | remains {rest a : Activity σ Unit} (h : Activity.Remains rest a) : Less (some rest) (some a)

/-- A task comes to its end. -/
theorem acc_less (a : Option (Activity σ Unit)) : Acc Less a := by
  have none_acc : Acc (Less (σ := σ)) none := ⟨_, fun _ h => nomatch h⟩
  cases a with
  | none => exact none_acc
  | some a =>
    induction Activity.acc_remains a with
    | intro a _ ih =>
      refine ⟨_, fun b h => ?_⟩
      cases h with
      | finished => exact none_acc
      | remains h => exact ih _ h

/-- Less is left of one task, and the others are the same. -/
inductive Fewer : List (Option (Activity σ Unit)) → List (Option (Activity σ Unit)) → Prop where
  | head {b a} (rest) (h : Less b a) : Fewer (b :: rest) (a :: rest)
  | tail (a) {rest' rest} (h : Fewer rest' rest) : Fewer (a :: rest') (a :: rest)

/-- Tasks come to their ends. -/
theorem acc_fewer (tasks : List (Option (Activity σ Unit))) : Acc Fewer tasks := by
  induction tasks with
  | nil => exact ⟨_, fun _ h => nomatch h⟩
  | cons a rest ih =>
    induction ih generalizing a with
    | intro rest hrest ihrest =>
      induction acc_less a with
      | intro a ha iha =>
        refine ⟨_, fun tasks h => ?_⟩
        cases h with
        | head _ h => exact iha _ h
        | tail _ h => exact ihrest _ h a

/-- A place that gets less. -/
theorem fewer_set {tasks : List (Option (Activity σ Unit))} {i : Nat}
    {a b : Option (Activity σ Unit)} (found : tasks[i]? = some a) (h : Less b a) :
    Fewer (tasks.set i b) tasks := by
  induction tasks generalizing i with
  | nil => simp at found
  | cons first rest ih =>
    cases i with
    | zero =>
      simp only [List.getElem?_cons_zero, Option.some.injEq] at found
      subst found
      exact .head rest h
    | succ i =>
      simp only [List.getElem?_cons_succ] at found
      exact .tail first (ih found)

/-- How many tasks are still to be taken up; one that sleeps has to wake first. -/
def pending (s : Scheduler σ) : Nat :=
  s.ready.length + s.yielded.length + 2 * s.sleeping.length

/-- A pause leaves the tasks as they are. -/
theorem tasks_pause (reason : Pause) (i : Nat) (s : Scheduler σ) :
    (pause reason i s).tasks = s.tasks := by
  unfold pause
  split
  · rfl
  · rfl
  · split <;> rfl
  · split <;> rfl

/-- A turn leaves less of a task, or there was nothing left of it. -/
theorem turn_fewer (i : Nat) (s : Scheduler σ) :
    Fewer (turn i s).tasks s.tasks ∨ turn i s = s := by
  unfold turn
  split
  next a found =>
    left
    split
    next _ _ shared => exact fewer_set found (.finished a)
    next reason rest shared h =>
      rw [tasks_pause]
      exact fewer_set found (.remains (Activity.remains_of_advance h))
  next => exact .inr rfl

/-- The order in which schedulers come closer to their end. -/
instance : WellFoundedRelation (Scheduler σ) where
  rel := InvImage (Prod.Lex Fewer (· < ·)) fun s => (s.tasks, s.pending)
  wf := InvImage.wf _ (Prod.lex ⟨Fewer, ⟨acc_fewer⟩⟩ ⟨(· < ·), Nat.lt_wfRel.wf⟩).wf

/-- Every step comes closer to the end. -/
theorem next?_decreases {enough : Scheduler σ → Bool} {s t : Scheduler σ}
    (h : s.next? enough = some t) : WellFoundedRelation.rel t s := by
  have after (i : Nat) (s' : Scheduler σ) (tasks : s'.tasks = s.tasks)
      (fewer : s'.pending < s.pending) : WellFoundedRelation.rel (turn i s') s := by
    show Prod.Lex Fewer (· < ·) ((turn i s').tasks, (turn i s').pending) (s.tasks, s.pending)
    cases turn_fewer i s' with
    | inl less => exact .left _ _ (tasks ▸ less)
    | inr same =>
      rw [same, tasks]
      exact .right _ fewer
  unfold next? at h
  split at h
  next i rest ready =>
    cases h
    exact after i _ rfl (by simp [pending, ready])
  next ready =>
    split at h
    next i rest yielded =>
      cases h
      exact after i _ rfl (by simp [pending, ready, yielded])
    next yielded =>
      split at h
      · cases h
      · unfold wake? at h
        split at h
        · cases h
        next t i rest sleeping =>
          cases h
          refine Prod.Lex.right _ ?_
          have parts := congrArg List.length
            (List.takeWhile_append_dropWhile (p := fun sleeper : Nat × Nat => sleeper.1 == t)
              (l := rest))
          simp only [List.length_append] at parts
          simp [pending, ready, yielded, sleeping]
          omega

/-- Lets the tasks go on until all of them wait and it is enough, or all have come to an end. -/
def run (enough : Scheduler σ → Bool) (s : Scheduler σ) : Scheduler σ :=
  match _h : s.next? enough with
  | none => s
  | some t => run enough t
termination_by s
decreasing_by exact next?_decreases _h

/-- Lets the tasks go on until all of them wait. -/
def settle (s : Scheduler σ) : Scheduler σ :=
  s.run fun _ => true

/-- Lets some time pass. -/
def elapse (milliseconds : Nat) (s : Scheduler σ) : Scheduler σ :=
  let goal := s.now + milliseconds
  let rested := s.run fun t => t.sleeping.all fun sleeper => decide (goal < sleeper.1)
  { rested with now := goal }

end Scheduler

end Automation
