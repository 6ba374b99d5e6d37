import Automation.Proofs.Engine.Reports

/-!
# What the moves tell of a registration

`Runs.Begun` and `Runs.Ended` say what some moves tell of a registration: which run it was given to,
and what that run ended with. Every state can be traced to its moves (`Runs.traced`): a registration
that is tracked was given to a run of its id, what is recorded for it is what that run ended with,
and as long as nothing is recorded the run has a task. A registration is given to one run only
(`Runs.Begun.unique`).
-/

namespace Automation

open Registry (find?)

namespace Registry

/-- A request of a task records nothing but its outcome, for the registration of its id. -/
theorem received?_serve {g : Registry} {n m : Nat} {o : Outcome}
    {answer : Except RunError NodeResult} {rest : Course Outcome}
    (known : (g.serve n answer rest).1.received? m = some o) :
    g.received? m = some o ∨
      rest = .done o ∧ ∃ slot, find? o.executionId g.slots = some slot ∧ slot.registration = m := by
  cases rest with
  | done o' =>
    replace known : (g.finish o').received? m = some o := known
    cases there : find? o'.executionId g.slots with
    | none =>
      left
      simpa only [finish, there] using known
    | some slot =>
      rw [finish_tracked o' there, received?_cons] at known
      split at known
      next same =>
        cases known
        exact .inr ⟨rfl, slot, there, same.symm⟩
      next => exact .inl known
  | check next => exact .inl known
  | handle node context next => exact .inl known
  | emit event next => exact .inl known
  | publish u next =>
    left
    simp only [serve] at known
    split at known
    next g' published => rwa [received?_publish published] at known
    next => exact known

/-- A registration that is given is the next one. -/
theorem next_register {g g' : Registry} {id workflowId : String} {n : Nat}
    (h : g.register id workflowId = .ok (g', n)) : n = g.next ∧ g'.next = g.next + 1 := by
  unfold Registry.register at h
  split at h
  · cases h
  · cases h
    exact ⟨rfl, rfl⟩

end Registry

namespace Runs

variable [Regex.Library] {policy : RevisitPolicy} {ms : List Move} {n : Nat} {r : RunRequest}
  {o : Outcome}

/-! ## What the moves tell of a registration -/

/-- A registration was given to a run: it is what the registry answered to its start. -/
def Begun (policy : RevisitPolicy) (ms : List Move) (n : Nat) (r : RunRequest) : Prop :=
  ∃ before after registry, ms = before ++ .start r :: after ∧
    (idle.moves policy before).registry.register r.executionId r.workflowId = .ok (registry, n)

/-- The run that a registration was given to ended with an outcome: it is the last step of its
task. -/
def Ended (policy : RevisitPolicy) (ms : List Move) (n : Nat) (r : RunRequest) (o : Outcome) :
    Prop :=
  ∃ before after i answer, ms = before ++ .task i answer :: after ∧
    (idle.moves policy before).tasks[i]? = some (some ⟨n, r, .done o⟩)

theorem Begun.append (h : Begun policy ms n r) (ms' : List Move) :
    Begun policy (ms ++ ms') n r := by
  obtain ⟨before, after, registry, rfl, registered⟩ := h
  exact ⟨before, after ++ ms', registry, by simp, registered⟩

theorem Ended.append (h : Ended policy ms n r o) (ms' : List Move) :
    Ended policy (ms ++ ms') n r o := by
  obtain ⟨before, after, i, answer, rfl, there⟩ := h
  exact ⟨before, after ++ ms', i, answer, by simp, there⟩

/-- What is so in the state that some moves lead to. -/
structure Traced (policy : RevisitPolicy) (ms : List Move) (s : Runs) : Prop where
  reached : idle.moves policy ms = s
  /-- A registration that is tracked was given to a run of its id. -/
  tracked : ∀ {id slot}, find? id s.registry.slots = some slot →
    ∃ r, r.executionId = id ∧ Begun policy ms slot.registration r
  /-- A task is that of the run that its registration was given to. -/
  tasks : ∀ {i : Nat} {t : RunTask}, s.tasks[i]? = some (some t) →
    Begun policy ms t.registration t.request
  /-- An outcome that is recorded is what the run of its registration ended with. -/
  outcomes : ∀ {n o}, s.registry.received? n = some o →
    ∃ r, Begun policy ms n r ∧ Ended policy ms n r o
  /-- A registration that is tracked and not recorded has a task. -/
  attended : ∀ {id slot}, find? id s.registry.slots = some slot →
    s.registry.received? slot.registration = none →
    ∃ (i : Nat) (t : RunTask), s.tasks[i]? = some (some t) ∧ t.registration = slot.registration

theorem traced_idle (policy : RevisitPolicy) : Traced policy [] idle where
  reached := rfl
  tracked there := by cases there
  tasks there := by cases there
  outcomes known := by cases known
  attended there := by cases there

section

variable {s : Runs} (h : Traced policy ms s)
include h

theorem Traced.reached_move (m : Move) : idle.moves policy (ms ++ [m]) = s.move policy m := by
  rw [moves_append, h.reached]
  rfl

/-- A move that leaves the tasks and the outcomes as they are, and tracks no other registration. -/
theorem Traced.same (m : Move) (tasks : (s.move policy m).tasks = s.tasks)
    (received : ∀ n, (s.move policy m).registry.received? n = s.registry.received? n)
    (found : ∀ {id slot}, find? id (s.move policy m).registry.slots = some slot →
      find? id s.registry.slots = some slot) : Traced policy (ms ++ [m]) (s.move policy m) where
  reached := h.reached_move m
  tracked there := by
    obtain ⟨r, own, begun⟩ := h.tracked (found there)
    exact ⟨r, own, begun.append [m]⟩
  tasks there := (h.tasks (tasks ▸ there)).append [m]
  outcomes known := by
    obtain ⟨r, begun, ended⟩ := h.outcomes (received _ ▸ known)
    exact ⟨r, begun.append [m], ended.append [m]⟩
  attended there unknown := tasks ▸ h.attended (found there) (received _ ▸ unknown)

/-- A move that does nothing. -/
theorem Traced.idle (m : Move) (stays : s.move policy m = s) :
    Traced policy (ms ++ [m]) (s.move policy m) :=
  h.same m (by rw [stays]) (fun _ => by rw [stays]) fun there => stays ▸ there

/-- A run that is started is given the next registration and a task. -/
theorem Traced.start (r : RunRequest) :
    Traced policy (ms ++ [.start r]) (s.move policy (.start r)) := by
  cases known : find? r.executionId s.registry.slots with
  | some slot => exact h.idle _ (by rw [move, Registry.register_tracked r.workflowId known])
  | none =>
    have registered := Registry.register_untracked r.workflowId known
    have begun : Begun policy (ms ++ [.start r]) s.registry.next r :=
      ⟨ms, [], _, rfl, by rw [h.reached]; exact registered⟩
    have reached := h.reached_move (.start r)
    rw [move, registered] at reached ⊢
    exact {
      reached := reached
      tracked := by
        intro id slot there
        rcases Registry.find?_registered there with there | ⟨rfl, rfl⟩
        · obtain ⟨r', own, begun'⟩ := h.tracked there
          exact ⟨r', own, begun'.append _⟩
        · exact ⟨r, rfl, begun⟩
      tasks := by
        intro i t there
        rcases List.mem_append.mp (List.mem_of_getElem? there) with old | new
        · obtain ⟨j, there⟩ := List.getElem?_of_mem old
          exact (h.tasks there).append _
        · cases List.mem_singleton.mp new
          exact begun
      outcomes := by
        intro n o recorded
        obtain ⟨r', begun', ended⟩ := h.outcomes recorded
        exact ⟨r', begun'.append _, ended.append _⟩
      attended := by
        intro id slot there unknown
        rcases Registry.find?_registered there with there | ⟨_, rfl⟩
        · obtain ⟨i, t, there, same⟩ := h.attended there unknown
          refine ⟨i, t, ?_, same⟩
          exact (List.getElem?_append_left (List.getElem?_eq_some_iff.mp there).1).trans there
        · exact ⟨_, _, List.getElem?_concat_length, rfl⟩ }

end

/-! ## Steps of tasks -/

section

variable {s : Runs} {i : Nat} {t : RunTask} (there : s.tasks[i]? = some (some t))
include there

/-- What a step leaves of the tasks: the others, and of its own one what it has left to do. -/
theorem task_move {answer : Except RunError NodeResult} {j : Nat} {t' : RunTask}
    (there' : (s.move policy (.task i answer)).tasks[j]? = some (some t')) :
    ∃ t₀, s.tasks[j]? = some (some t₀) ∧ t'.registration = t₀.registration ∧
      t'.request = t₀.request := by
  rw [move, there] at there'
  dsimp only at there'
  rw [List.getElem?_set] at there'
  split at there'
  next same =>
    subst same
    split at there'
    · obtain ⟨rest, _, rfl⟩ := Option.map_eq_some_iff.mp (Option.some.inj there')
      exact ⟨t, there, rfl, rfl⟩
    · cases there'
  next => exact ⟨t', there', rfl, rfl⟩

/-- A registration that is tracked behind a step was tracked before it. -/
theorem slot_move {answer : Except RunError NodeResult} {id : String} {slot' : Slot}
    (found : find? id (s.move policy (.task i answer)).registry.slots = some slot') :
    ∃ slot, find? id s.registry.slots = some slot ∧ slot.registration = slot'.registration := by
  rw [move, there] at found
  have same := s.registry.registration_serve t.registration answer t.rest id
  rw [found, Option.map_some] at same
  exact Option.map_eq_some_iff.mp same.symm

/-- A task either goes on, or has its outcome recorded. -/
theorem goes_on_or_recorded {slot : Slot} (tracked : Tracked s.registry t slot)
    (answer : Except RunError NodeResult) :
    (∃ rest, (s.move policy (.task i answer)).tasks[i]? = some (some { t with rest })) ∨
      ∃ o, (s.move policy (.task i answer)).registry.received? t.registration = some o := by
  rw [move, there]
  dsimp only
  rw [getElem?_set_there there]
  cases last : t.rest with
  | done o =>
    have own := (last ▸ tracked.phase).done.1
    obtain ⟨_, _, _, recorded⟩ := Registry.finish_recorded (own ▸ tracked.found)
    exact .inr ⟨o, tracked.registration ▸ recorded⟩
  | check next => exact .inl ⟨_, rfl⟩
  | handle n context next => exact .inl ⟨_, rfl⟩
  | emit event next => exact .inl ⟨_, rfl⟩
  | publish u next =>
    left
    simp only [Registry.serve]
    split <;> exact ⟨_, rfl⟩

/-- What a step records is what the run of its task ended with. -/
theorem recorded_move {slot : Slot} (tracked : Tracked s.registry t slot)
    {answer : Except RunError NodeResult}
    (known : (s.move policy (.task i answer)).registry.received? n = some o) :
    s.registry.received? n = some o ∨ t = ⟨n, t.request, .done o⟩ := by
  rw [move, there] at known
  rcases Registry.received?_serve known with known | ⟨last, slot', found, same⟩
  · exact .inl known
  · -- The outcome is recorded under the id of the run, which the task is tracked under.
    have own := (last ▸ tracked.phase).done.1
    rw [own, tracked.found, Option.some.injEq] at found
    subst found
    right
    rw [← same, tracked.registration, ← last]

end

section

variable {s : Runs} (h : Traced policy ms s)
include h

/-- Behind a step of a task a registration that is not recorded still has its task. -/
theorem Traced.attended_task (kept : s.Kept) {i : Nat} {t : RunTask}
    (there : s.tasks[i]? = some (some t)) {slot : Slot} (tracked : Tracked s.registry t slot)
    {answer : Except RunError NodeResult} {id : String} {slot' : Slot}
    (found : find? id (s.move policy (.task i answer)).registry.slots = some slot')
    (unknown : (s.move policy (.task i answer)).registry.received? slot'.registration = none) :
    ∃ (j : Nat) (t' : RunTask), (s.move policy (.task i answer)).tasks[j]? = some (some t') ∧
      t'.registration = slot'.registration := by
  obtain ⟨slot₀, found, same⟩ := slot_move there found
  have unknown₀ : s.registry.received? slot₀.registration = none := by
    cases known : s.registry.received? slot₀.registration with
    | none => rfl
    | some o =>
      rw [← same, (kept.task policy i answer).2.recorded known] at unknown
      cases unknown
  obtain ⟨j, t', there', own⟩ := h.attended found unknown₀
  by_cases here : i = j
  · subst here
    cases there.symm.trans there'
    -- The task goes on, since else its outcome would be recorded.
    rcases goes_on_or_recorded there tracked answer with ⟨rest, going⟩ | ⟨o, recorded⟩
    · exact ⟨i, _, going, own.trans same⟩
    · rw [← same, ← own, recorded] at unknown
      cases unknown
  · refine ⟨j, t', ?_, own.trans same⟩
    rw [move, there]
    exact (List.getElem?_set_ne here).trans there'

/-- A step of a task records at most what its run ended with. -/
theorem Traced.task (kept : s.Kept) (i : Nat) (answer : Except RunError NodeResult) :
    Traced policy (ms ++ [.task i answer]) (s.move policy (.task i answer)) := by
  by_cases there : ∃ t, s.tasks[i]? = some (some t)
  · obtain ⟨t, there⟩ := there
    obtain ⟨slot, tracked⟩ := kept.tracked there
    exact {
      reached := h.reached_move _
      tracked := by
        intro id slot' found
        obtain ⟨slot, found, same⟩ := slot_move there found
        obtain ⟨r, own, begun⟩ := h.tracked found
        exact ⟨r, own, same ▸ begun.append _⟩
      tasks := by
        intro j t' there'
        obtain ⟨t₀, there₀, registration, request⟩ := task_move there there'
        rw [registration, request]
        exact (h.tasks there₀).append _
      outcomes := by
        intro n o known
        rcases recorded_move there tracked known with known | last
        · obtain ⟨r, begun, ended⟩ := h.outcomes known
          exact ⟨r, begun.append _, ended.append _⟩
        · refine ⟨t.request, ?_, ms, [], i, answer, rfl, by rw [h.reached, there, ← last]⟩
          have begun := (h.tasks there).append [.task i answer]
          rwa [last] at begun
      attended := h.attended_task kept there tracked }
  · refine h.idle _ ?_
    rw [Runs.move]
    split
    next t here => exact absurd ⟨t, here⟩ there
    next => rfl

/-- Every move can be traced. -/
theorem Traced.move (kept : s.Kept) (m : Move) : Traced policy (ms ++ [m]) (s.move policy m) := by
  cases m with
  | start r => exact h.start r
  | status id => exact h.idle _ rfl
  | wait id => exact h.idle _ rfl
  | cancel id =>
    cases asked : s.registry.cancel id with
    | error e => exact h.idle _ (by rw [Runs.move, asked])
    | ok answer =>
      have moved : s.move policy (.cancel id) = { s with registry := answer.1 } := by
        rw [Runs.move, asked]
      refine h.same _ (by rw [moved]) (fun n => ?_) fun there => ?_
      · rw [moved]
        exact Registry.received?_cancel asked n
      · rwa [moved, Registry.slots_cancel asked] at there
  | forget id =>
    obtain ⟨received, found⟩ := s.registry.forget_keeps id
    exact h.same _ rfl received found
  | task i answer => exact h.task kept i answer

end

/-- **Whatever moves lead to can be traced.** -/
theorem traced (policy : RevisitPolicy) (ms : List Move) :
    Traced policy ms (idle.moves policy ms) := by
  have further (ms' : List Move) {ms : List Move} {s : Runs} (h : Traced policy ms s)
      (kept : s.Kept) : Traced policy (ms ++ ms') (s.moves policy ms') := by
    induction ms' generalizing ms s with
    | nil => rwa [List.append_nil]
    | cons m ms' ih =>
      have moved := ih (h.move kept m) (kept.move policy m).1
      rwa [List.append_assoc] at moved
  exact further ms (traced_idle policy) kept_idle

/-! ## Registrations -/

/-- After a registration was given the next one is another. -/
theorem lt_next {before : List Move} {g : Registry}
    (registered : (idle.moves policy before).registry.register r.executionId r.workflowId =
      .ok (g, n)) (further : List Move) :
    n < (idle.moves policy (before ++ .start r :: further)).registry.next := by
  obtain ⟨rfl, next⟩ := Registry.next_register registered
  have kept := (kept_idle.moves policy before).1
  have later := ((kept.move policy (.start r)).1.moves policy further).2.next
  rw [move, registered, next] at later
  rw [moves_append]
  refine Nat.lt_of_succ_le (Nat.le_trans later (Nat.le_of_eq ?_))
  show _ = ((move policy (.start r) _).moves policy further).registry.next
  rw [move, registered]

/-- **A registration is given to one run.** -/
theorem Begun.unique {r' : RunRequest} (h : Begun policy ms n r) (h' : Begun policy ms n r') :
    r = r' := by
  obtain ⟨before, after, g, rfl, registered⟩ := h
  obtain ⟨before', after', g', same, registered'⟩ := h'
  -- One start comes no later than the other. If it comes before it, the number is not the next one.
  rcases List.append_eq_append_iff.mp same with ⟨between, rfl, rest⟩ | ⟨between, rfl, rest⟩
  · cases between with
    | nil =>
      cases rest
      rfl
    | cons m between =>
      cases rest
      exact absurd (Registry.next_register registered').1
        (Nat.ne_of_lt (lt_next registered between))
  · cases between with
    | nil =>
      cases rest
      rfl
    | cons m between =>
      cases rest
      exact absurd (Registry.next_register registered).1
        (Nat.ne_of_lt (lt_next registered' between))

end Runs

end Automation
