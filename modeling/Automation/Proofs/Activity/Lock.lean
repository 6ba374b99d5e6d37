import Automation.Activity.Scheduler

/-!
# No task waits for the lock in vain

An activity is proper if it takes the lock only when it does not hold it and gives it back only when
it does (`Activity.Proper`). A scheduler with proper tasks is orderly (`Scheduler.Orderly`): every
task that has something left to do either has a turn to come or waits for the lock, and if any task
waits for the lock, another one holds it that has a turn to come. So the tasks go on until it is
enough or all of them have come to an end (`Scheduler.Orderly.run_ends`).
-/

namespace Automation

/-! ## Proper activities -/

/-- Whether an activity that holds the lock, or does not, may pause for a reason. -/
def Pause.Fits (held : Bool) : Pause → Prop
  | .lock => held = false
  | .unlock => held = true
  | .sleep _ => True
  | .yield => True

/-- Whether an activity holds the lock after a pause. -/
def Pause.holds (held : Bool) : Pause → Bool
  | .lock => true
  | .unlock => false
  | .sleep _ => held
  | .yield => held

namespace Activity

/-- Whether an activity that holds the lock, or does not, takes it and gives it back in turns, and
ends with it or without it. -/
def Proper (held after : Bool) : Activity σ α → Prop
  | done _ => held = after
  | read next => ∀ s, (next s).Proper held after
  | write _ next => next.Proper held after
  | pause reason next => reason.Fits held ∧ next.Proper (reason.holds held) after

theorem proper_bind {held between after : Bool} {a : Activity σ α} {f : α → Activity σ β}
    (ha : a.Proper held between) (hf : ∀ x, (f x).Proper between after) :
    (a >>= f).Proper held after := by
  show (a.bind f).Proper held after
  induction a generalizing held with
  | done x =>
    cases ha
    exact hf x
  | read next ih => exact fun s => ih s (ha s)
  | write change next ih => exact ih ha
  | pause reason next ih => exact ⟨ha.1, ih ha.2⟩

theorem proper_onPart {held after : Bool} {get : τ → σ} {set : σ → τ → τ} {a : Activity σ α}
    (h : a.Proper held after) : (a.onPart get set).Proper held after := by
  induction a generalizing held with
  | done x => exact h
  | read next ih => exact fun t => ih (get t) (h (get t))
  | write change next ih => exact ih h
  | pause reason next ih => exact ⟨h.1, ih h.2⟩

/-- The lock is taken for a body that leaves it alone. -/
theorem proper_locked {body : Activity σ α} (h : body.Proper true true) :
    (locked body).Proper false false := by
  have taken : (wait (σ := σ) .lock).Proper false true := ⟨rfl, rfl⟩
  have given : (wait (σ := σ) .unlock).Proper true false := ⟨rfl, rfl⟩
  exact proper_bind taken fun _ => proper_bind h fun _ => proper_bind given fun _ => rfl

/-- What a turn leaves of an activity is proper. -/
theorem Proper.advance {held after : Bool} {a : Activity σ α} (h : a.Proper held after) (s : σ) :
    match (a.advance s).1 with
    | .finished _ => held = after
    | .paused reason rest => reason.Fits held ∧ rest.Proper (reason.holds held) after := by
  induction a generalizing s with
  | done x => exact h
  | read next ih => exact ih s (h s) s
  | write change next ih => exact ih h (change s)
  | pause reason next ih => exact h

end Activity

namespace Scheduler

/-! ## Orderly schedulers -/

/-- The tasks that have a turn to come. -/
def due (s : Scheduler σ) : List Nat :=
  s.ready ++ s.yielded ++ s.sleeping.map Prod.snd

/-- Whether a task goes on with the lock: it holds it or waits for it. -/
abbrev WithLock (s : Scheduler σ) (holder : Option Nat) (i : Nat) : Prop :=
  holder = some i ∨ i ∈ s.queue

/-- The tasks that have something left to do are those that have a turn to come and those that wait
for the lock. Who holds the lock has a turn to come, and if nobody holds it, nobody waits for it. -/
structure Ordered (s : Scheduler σ) (due : List Nat) (holder : Option Nat) : Prop where
  distinct : (due ++ s.queue).Nodup
  live : ∀ i, i ∈ due ++ s.queue ↔ ∃ a, s.tasks[i]? = some (some a)
  locked : s.isLocked = holder.isSome
  free : holder = none → s.queue = []
  held : ∀ i, holder = some i → i ∈ due
  proper : ∀ {i : Nat} {a : Activity σ Unit}, s.tasks[i]? = some (some a) →
    a.Proper (decide (s.WithLock holder i)) false

/-- **A scheduler whose tasks come to their ends.** -/
def Orderly (s : Scheduler σ) : Prop :=
  ∃ holder, s.Ordered s.due holder

variable {s s' : Scheduler σ} {due due' : List Nat} {holder holder' : Option Nat} {i : Nat}

theorem orderly_start (shared : σ) : (start shared).Orderly :=
  ⟨none, List.nodup_nil, by simp [start, Scheduler.due], rfl, fun _ => rfl,
    fun _ h => (by cases h), fun h => (by cases h)⟩

/-- The order of the turns does not matter. -/
theorem Ordered.perm (h : s.Ordered due holder) (perm : due.Perm due') : s.Ordered due' holder where
  distinct := (perm.append_right s.queue).nodup_iff.mp h.distinct
  live i := (perm.append_right s.queue).mem_iff.symm.trans (h.live i)
  locked := h.locked
  free := h.free
  held i there := perm.mem_iff.mp (h.held i there)
  proper := h.proper

/-- A task that is put to sleep is one more of the sleeping ones. -/
theorem insertSleeper_perm (deadline i : Nat) (sleeping : List (Nat × Nat)) :
    ((insertSleeper deadline i sleeping).map Prod.snd).Perm (i :: sleeping.map Prod.snd) := by
  induction sleeping with
  | nil => exact .refl _
  | cons entry rest ih =>
    rw [insertSleeper]
    split
    · exact (ih.cons _).trans (.swap ..)
    · exact .refl _

/-! ## Turns -/

section

variable {a rest : Activity σ Unit} (h : s.Ordered (i :: due) holder)
include h

/-- Who has a turn does not wait for the lock. -/
theorem Ordered.not_queued : i ∉ s.queue :=
  fun queued => (List.nodup_cons.mp h.distinct).1 (List.mem_append_right due queued)

/-- The places where a task has something left to do, once the one that has its turn is at its
end. -/
theorem Ordered.finished (there : s.tasks[i]? = some (some a)) (gone : holder ≠ some i)
    (tasks : s'.tasks = s.tasks.set i none) (queue : s'.queue = s.queue)
    (isLocked : s'.isLocked = s.isLocked) : s'.Ordered due holder where
  distinct := queue ▸ (List.nodup_cons.mp h.distinct).2
  live j := by
    rw [queue, tasks, List.getElem?_set]
    split
    next same =>
      subst same
      refine iff_of_false (List.nodup_cons.mp h.distinct).1 ?_
      rintro ⟨_, left⟩
      split at left <;> cases left
    next other =>
      rw [← h.live j, List.cons_append, List.mem_cons, or_iff_right (Ne.symm other)]
  locked := isLocked.trans h.locked
  free none := queue.trans (h.free none)
  held j holds := by
    rcases List.mem_cons.mp (h.held j holds) with rfl | due
    · exact absurd holds gone
    · exact due
  proper := by
    intro j b thereB
    rw [tasks, List.getElem?_set] at thereB
    split at thereB
    · split at thereB <;> cases thereB
    · show b.Proper (decide (holder = some j ∨ j ∈ s'.queue)) false
      rw [queue]
      exact h.proper thereB

/-- A task that pauses keeps its place, among those that have a turn to come or those that wait for
the lock. -/
theorem Ordered.paused (there : s.tasks[i]? = some (some a))
    (tasks : s'.tasks = s.tasks.set i (some rest))
    (perm : (due' ++ s'.queue).Perm (i :: due ++ s.queue))
    (locked : s'.isLocked = holder'.isSome) (free : holder' = none → s'.queue = [])
    (held : ∀ j, holder' = some j → j ∈ due')
    (others : ∀ j, j ≠ i → (s'.WithLock holder' j ↔ s.WithLock holder j))
    (own : rest.Proper (decide (s'.WithLock holder' i)) false) : s'.Ordered due' holder' where
  distinct := perm.nodup_iff.mpr h.distinct
  live j := by
    rw [perm.mem_iff, h.live j, tasks, List.getElem?_set]
    split
    next same =>
      subst same
      rw [if_pos (List.getElem?_eq_some_iff.mp there).1]
      exact iff_of_true ⟨a, there⟩ ⟨rest, rfl⟩
    next => rfl
  locked := locked
  free := free
  held := held
  proper := by
    intro j b thereB
    rw [tasks, List.getElem?_set] at thereB
    split at thereB
    next same =>
      subst same
      split at thereB
      · cases thereB
        exact own
      · cases thereB
    next other =>
      have same : decide (s'.WithLock holder' j) = decide (s.WithLock holder j) :=
        decide_eq_decide.mpr (others j (Ne.symm other))
      rw [same]
      exact h.proper thereB

/-- A task that pauses without the lock in question has a turn to come. -/
theorem Ordered.again (there : s.tasks[i]? = some (some a))
    (tasks : s'.tasks = s.tasks.set i (some rest)) (queue : s'.queue = s.queue)
    (isLocked : s'.isLocked = s.isLocked) (perm : due'.Perm (i :: due))
    (own : rest.Proper (decide (holder = some i)) false) : s'.Ordered due' holder := by
  refine h.paused there tasks (queue ▸ perm.append_right _) (isLocked.trans h.locked)
    (fun none => queue.trans (h.free none)) (fun j holds => perm.mem_iff.mpr (h.held j holds))
    (fun j _ => ?_) ?_
  · rw [WithLock, WithLock, queue]
  · simpa [WithLock, queue, h.not_queued] using own

/-- A task that asks for the lock while another one holds it waits for it. -/
theorem Ordered.wait (there : s.tasks[i]? = some (some a))
    (tasks : s'.tasks = s.tasks.set i (some rest)) (queue : s'.queue = s.queue ++ [i])
    (isLocked : s'.isLocked = s.isLocked) (taken : s.isLocked = true) (other : holder ≠ some i)
    (own : rest.Proper true false) : s'.Ordered due holder := by
  refine h.paused there tasks ?_ (isLocked.trans h.locked) (fun none => ?_) (fun j holds => ?_)
    (fun j different => ?_) ?_
  · rw [queue, ← List.append_assoc]
    exact List.perm_append_singleton i (due ++ s.queue)
  · rw [h.locked, none] at taken
    cases taken
  · rcases List.mem_cons.mp (h.held j holds) with rfl | due
    · exact absurd holds other
    · exact due
  · simp [WithLock, queue, different]
  · simpa [WithLock, queue] using own

/-- A task that asks for the lock while nobody holds it holds it. -/
theorem Ordered.take (there : s.tasks[i]? = some (some a))
    (tasks : s'.tasks = s.tasks.set i (some rest)) (queue : s'.queue = s.queue)
    (isLocked : s'.isLocked = true) (free : s.isLocked = false) (own : rest.Proper true false) :
    s'.Ordered (i :: due) (some i) := by
  have nobody : holder = none := by
    rw [h.locked] at free
    simpa using free
  have empty : s'.queue = [] := queue.trans (h.free nobody)
  refine h.paused there tasks (queue ▸ .refl _) isLocked (fun none => by cases none)
    (fun j holds => ?_) (fun j different => ?_) ?_
  · cases holds
    exact List.mem_cons_self
  · simp [WithLock, empty, nobody, h.free nobody, Ne.symm different]
  · simpa [WithLock] using own

/-- A task that gives the lock back while nobody waits for it. -/
theorem Ordered.give (there : s.tasks[i]? = some (some a))
    (tasks : s'.tasks = s.tasks.set i (some rest)) (nobody : s.queue = []) (queue : s'.queue = [])
    (isLocked : s'.isLocked = false) (holds : holder = some i) (own : rest.Proper false false) :
    s'.Ordered (i :: due) none := by
  refine h.paused there tasks (by rw [queue, nobody]) isLocked (fun _ => queue)
    (fun j holds => by cases holds) (fun j different => ?_) ?_
  · simp [WithLock, queue, nobody, holds, Ne.symm different]
  · simpa [WithLock, queue] using own

/-- A task that gives the lock back hands it to whoever has waited for it longest. -/
theorem Ordered.hand {j : Nat} (there : s.tasks[i]? = some (some a))
    (tasks : s'.tasks = s.tasks.set i (some rest)) (waiting : s.queue = j :: s'.queue)
    (isLocked : s'.isLocked = true) (holds : holder = some i) (perm : due'.Perm (i :: j :: due))
    (own : rest.Proper false false) : s'.Ordered due' (some j) := by
  have first : j ≠ i := by
    rintro rfl
    exact h.not_queued (waiting ▸ List.mem_cons_self)
  have later : i ∉ s'.queue := fun queued => h.not_queued (waiting ▸ List.mem_cons_of_mem _ queued)
  refine h.paused there tasks ?_ isLocked (fun none => by cases none) (fun k holds => ?_)
    (fun k different => ?_) ?_
  · rw [waiting]
    refine (perm.append_right _).trans ?_
    exact (List.perm_middle.symm).cons i
  · cases holds
    exact perm.mem_iff.mpr (List.mem_cons_of_mem _ List.mem_cons_self)
  · simp [WithLock, waiting, holds, Ne.symm different, eq_comm]
  · simpa [WithLock, first, later] using own

end

/-- **A turn keeps a scheduler orderly**, whatever the task pauses for. -/
theorem Ordered.turn (h : s.Ordered (i :: s.due) holder) : (s.turn i).Orderly := by
  have mine : decide (s.WithLock holder i) = decide (holder = some i) := by
    simp [WithLock, h.not_queued]
  obtain ⟨a, there⟩ := (h.live i).mp (List.mem_append_left _ List.mem_cons_self)
  have proper := (h.proper there).advance s.shared
  rw [mine] at proper
  rw [Scheduler.turn, there]
  dsimp only
  split
  next shared advanced =>
    rw [advanced] at proper
    exact ⟨holder, h.finished there (of_decide_eq_false proper) rfl rfl rfl⟩
  next reason rest shared advanced =>
    rw [advanced] at proper
    obtain ⟨fits, proper⟩ := proper
    cases reason with
    | sleep ms =>
      refine ⟨holder, h.again there rfl rfl rfl ?_ proper⟩
      exact ((insertSleeper_perm _ i s.sleeping).append_left _).trans List.perm_middle
    | yield =>
      refine ⟨holder, h.again there rfl rfl rfl ?_ proper⟩
      show (s.ready ++ (s.yielded ++ [i]) ++ s.sleeping.map Prod.snd).Perm _
      rw [← List.append_assoc, List.append_assoc _ [i]]
      exact List.perm_middle
    | lock =>
      rw [pause]
      split
      next taken =>
        exact ⟨holder, h.wait there rfl rfl rfl taken (of_decide_eq_false fits) proper⟩
      next free =>
        have free : s.isLocked = false := Bool.eq_false_iff.mpr free
        exact ⟨some i, h.take there rfl rfl rfl free proper⟩
    | unlock =>
      have holds : holder = some i := of_decide_eq_true fits
      rw [pause]
      split
      next nobody => exact ⟨none, h.give there rfl nobody nobody rfl holds proper⟩
      next j rest waiting =>
        refine ⟨some j, h.hand there rfl waiting ?_ holds ?_ proper⟩
        · show s.isLocked = true
          rw [h.locked, holds]
          rfl
        · show (i :: s.ready ++ [j] ++ s.yielded ++ s.sleeping.map Prod.snd).Perm _
          simp only [List.cons_append, List.append_assoc, List.nil_append]
          refine List.Perm.cons i ?_
          rw [due, List.append_assoc]
          exact List.perm_middle

/-! ## Runs of the scheduler -/

/-- The clock, what tasks share and the order of the turns do not matter. -/
theorem Ordered.other (h : s.Ordered due holder) (tasks : s'.tasks = s.tasks)
    (queue : s'.queue = s.queue) (isLocked : s'.isLocked = s.isLocked) : s'.Ordered due holder where
  distinct := queue ▸ h.distinct
  live i := by rw [queue, tasks]; exact h.live i
  locked := isLocked.trans h.locked
  free none := queue.trans (h.free none)
  held := h.held
  proper := by
    intro i a there
    show a.Proper (decide (holder = some i ∨ i ∈ s'.queue)) false
    rw [queue]
    exact h.proper (tasks ▸ there)

/-- A task that is due or waits for the lock has a place. -/
theorem Ordered.lt (h : s.Ordered due holder) (known : i ∈ due ++ s.queue) :
    i < s.tasks.length := by
  obtain ⟨_, there⟩ := (h.live i).mp known
  exact (List.getElem?_eq_some_iff.mp there).1

/-- A task more, which does not hold the lock. -/
theorem Ordered.added (h : s.Ordered due holder) {a : Activity σ Unit}
    (proper : a.Proper false false)
    (tasks : s'.tasks = s.tasks ++ [some a]) (queue : s'.queue = s.queue)
    (isLocked : s'.isLocked = s.isLocked) : s'.Ordered (s.tasks.length :: due) holder := by
  have new : s.tasks.length ∉ due ++ s.queue := fun known => Nat.lt_irrefl _ (h.lt known)
  have place (i : Nat) : s'.tasks[i]? =
      if i = s.tasks.length then some (some a) else s.tasks[i]? := by
    rw [tasks, List.getElem?_append, List.getElem?_singleton]
    split
    next less => rw [if_neg (Nat.ne_of_lt less)]
    next more =>
      split
      next first => rw [if_pos (by omega)]
      next later => rw [if_neg (by omega), List.getElem?_eq_none (by omega)]
  exact {
    distinct := queue ▸ List.nodup_cons.mpr ⟨new, h.distinct⟩
    live := by
      intro i
      rw [queue, place, List.cons_append, List.mem_cons, h.live i]
      split
      next own => exact iff_of_true (.inl own) ⟨a, rfl⟩
      next other => exact or_iff_right other
    locked := isLocked.trans h.locked
    free := fun none => queue.trans (h.free none)
    held := fun i holds => List.mem_cons_of_mem _ (h.held i holds)
    proper := by
      intro i b there
      rw [place] at there
      show b.Proper (decide (holder = some i ∨ i ∈ s'.queue)) false
      rw [queue]
      split at there
      next own =>
        cases there
        have without : ¬(holder = some i ∨ i ∈ s.queue) := by
          rw [own]
          rintro (holds | queued)
          · exact new (List.mem_append_left _ (h.held _ holds))
          · exact new (List.mem_append_right _ queued)
        rwa [decide_eq_false without]
      next => exact h.proper there }

/-- A task that wakes has a turn to come, as it had before. -/
theorem due_wake? (ready : s.ready = []) (yielded : s.yielded = []) (woken : s.wake? = some s') :
    s'.due = s.due ∧ s'.tasks = s.tasks ∧ s'.queue = s.queue ∧ s'.isLocked = s.isLocked := by
  unfold wake? at woken
  split at woken
  · cases woken
  next t i rest sleeping =>
    cases woken
    refine ⟨?_, rfl, rfl, rfl⟩
    have parts := congrArg (List.map Prod.snd) (List.takeWhile_append_dropWhile
      (p := fun sleeper : Nat × Nat => sleeper.1 == t) (l := rest))
    simp only [List.map_append] at parts
    simp [due, ready, yielded, sleeping, parts]

/-- What is next is orderly. -/
theorem Orderly.next {enough : Scheduler σ → Bool} (h : s.Orderly)
    (next : s.next? enough = some s') : s'.Orderly := by
  obtain ⟨holder, h⟩ := h
  -- Who has the next turn is the first of those that have a turn to come.
  have first {i : Nat} {t : Scheduler σ} (tasks : t.tasks = s.tasks) (queue : t.queue = s.queue)
      (isLocked : t.isLocked = s.isLocked) (due : s.due = i :: t.due) : (t.turn i).Orderly := by
    have h : t.Ordered s.due holder := h.other tasks queue isLocked
    exact Ordered.turn (due ▸ h)
  unfold next? at next
  split at next
  next i rest ready =>
    cases next
    exact first rfl rfl rfl (by simp [due, ready])
  next ready =>
    split at next
    next i rest yielded =>
      cases next
      exact first rfl rfl rfl (by simp [due, ready, yielded])
    next yielded =>
      split at next
      · cases next
      · obtain ⟨same, tasks, queue, isLocked⟩ := due_wake? ready yielded next
        exact ⟨holder, same ▸ h.other tasks queue isLocked⟩

theorem Orderly.run (h : s.Orderly) (enough : Scheduler σ → Bool) : (s.run enough).Orderly := by
  induction s using Scheduler.run.induct enough with
  | case1 s stop => rwa [Scheduler.run, stop]
  | case2 s s' next ih =>
    rw [Scheduler.run, next]
    exact ih (h.next next)

/-- A scheduler that adds a task, which is ready, is orderly. -/
theorem Orderly.spawn (h : s.Orderly) {a : Activity σ Unit} (proper : a.Proper false false) :
    (s.spawn a).Orderly := by
  obtain ⟨holder, h⟩ := h
  refine ⟨holder, Ordered.perm (h.added proper rfl rfl rfl) ?_⟩
  show (s.tasks.length :: (s.ready ++ s.yielded ++ s.sleeping.map Prod.snd)).Perm
    (s.ready ++ [s.tasks.length] ++ s.yielded ++ s.sleeping.map Prod.snd)
  simp only [List.append_assoc, List.cons_append, List.nil_append]
  exact List.perm_middle.symm

/-- A task that goes on at once. -/
theorem Orderly.enter (h : s.Orderly) {a : Activity σ Unit} (proper : a.Proper false false) :
    (s.enter a).Orderly := by
  obtain ⟨holder, h⟩ := h
  have added : Ordered { s with tasks := s.tasks ++ [some a] } (s.tasks.length :: s.due) holder :=
    h.added proper rfl rfl rfl
  exact added.turn

/-- What tasks share and the time do not matter. -/
theorem Orderly.changed (h : s.Orderly) (shared : σ) (now : Nat) :
    Orderly { s with shared, now } := by
  obtain ⟨holder, h⟩ := h
  exact ⟨holder, h.other rfl rfl rfl⟩

/-- When nobody has a turn to come, every task has come to an end. -/
theorem Ordered.ended (h : s.Ordered [] holder) (i : Nat) (a : Activity σ Unit) :
    s.tasks[i]? ≠ some (some a) := by
  intro there
  have nobody : holder = none := by
    cases holder with
    | none => rfl
    | some j => cases h.held j rfl
  have none : i ∈ [] ++ s.queue := (h.live i).mpr ⟨a, there⟩
  rw [h.free nobody] at none
  cases none

/-- **The tasks go on until it is enough, or all of them have come to an end.** -/
theorem Orderly.run_ends (h : s.Orderly) (enough : Scheduler σ → Bool) :
    enough (s.run enough) = true ∨
      ∀ (i : Nat) (a : Activity σ Unit), (s.run enough).tasks[i]? ≠ some (some a) := by
  induction s using Scheduler.run.induct enough with
  | case1 s stop =>
    rw [Scheduler.run, stop]
    obtain ⟨holder, h⟩ := h
    unfold next? at stop
    split at stop
    · cases stop
    next ready =>
      split at stop
      · cases stop
      next yielded =>
        split at stop
        next done => exact .inl done
        next =>
          have sleeping : s.sleeping = [] := by
            unfold wake? at stop
            split at stop
            next sleeping => exact sleeping
            next => cases stop
          have none : s.due = [] := by simp [due, ready, yielded, sleeping]
          exact .inr fun i a => Ordered.ended (none ▸ h) i a
  | case2 s s' next ih =>
    rw [Scheduler.run, next]
    exact ih (h.next next)

end Scheduler

end Automation
