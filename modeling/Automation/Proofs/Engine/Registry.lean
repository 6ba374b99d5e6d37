import Automation.Execution.Report

/-!
# What the calls of a registry do

Each call changes one entry of the registry or none. For every call there is what it answers and
what is found afterwards under each id and for each registration. What the calls of runs keep is
`Registry.Sound`: in particular a tracked run with an outcome knows it. From one registry to a later
one (`Registry.Later`), outcomes stay, and an execution that was tracked before has not become
pending again.
-/

namespace Automation

/-- An outcome that a run can have: it has ended, with an error just if it failed. -/
structure Outcome.Final (o : Outcome) : Prop where
  ended : o.status.isTerminal = true
  failed : o.error.isSome = true ↔ o.status = .failed

/-- An execution with the status, the results and the error of an outcome. -/
structure Execution.Records (e : Execution) (o : Outcome) : Prop where
  status : e.status = o.status
  result : e.result = some o.results
  error : e.error = o.error

theorem Execution.Records.apply {e : Execution} {o : Outcome} (h : e.Records o)
    (ended : o.status.isTerminal = true) (u : StatusUpdate) : e.apply u = e := by
  rw [Execution.apply, if_pos (by rw [h.status, ended])]

namespace Registry

variable {g g' : Registry} {id id' : String} {n : Nat}

/-! ## Entries -/

theorem find?_append (id k : String) (s : Slot) (slots : List (String × Slot)) :
    find? id (slots ++ [(k, s)]) =
      (find? id slots).or (if k = id then some s else none) := by
  induction slots with
  | nil => rfl
  | cons entry rest ih =>
    simp only [List.cons_append, find?]
    split
    · rfl
    · exact ih

theorem find?_changed (id id' : String) (f : Execution → Execution)
    (slots : List (String × Slot)) :
    find? id (changed id' f slots) =
      (find? id slots).map fun s =>
        if id = id' then { s with execution := f s.execution } else s := by
  induction slots with
  | nil => rfl
  | cons entry rest ih =>
    obtain ⟨k, s⟩ := entry
    have rest' : find? id (rest.map fun entry => if entry.1 = id' then
        (entry.1, { entry.2 with execution := f entry.2.execution }) else entry) =
        find? id (changed id' f rest) := rfl
    simp only [changed, List.map_cons]
    by_cases own : k = id'
    · subst own
      simp only [if_true, find?]
      by_cases here : k = id
      · simp [here]
      · rw [if_neg here, if_neg here, rest', ih]
    · simp only [if_neg own, find?]
      by_cases here : k = id
      · subst here
        simp [own]
      · rw [if_neg here, if_neg here, rest', ih]

theorem find?_filter (id id' : String) (slots : List (String × Slot)) :
    find? id (slots.filter fun entry => entry.1 ≠ id') =
      if id = id' then none else find? id slots := by
  induction slots with
  | nil => simp [find?]
  | cons entry rest ih =>
    obtain ⟨k, s⟩ := entry
    rw [List.filter_cons]
    by_cases own : k = id'
    · subst own
      simp only [ne_eq, not_true_eq_false, decide_false, Bool.false_eq_true, if_false, find?]
      rw [ih]
      by_cases here : id = k
      · simp [here]
      · simp [here, Ne.symm here]
    · simp only [ne_eq, own, not_false_eq_true, decide_true, if_true, find?]
      rw [ih]
      by_cases here : k = id
      · subst here
        simp [own]
      · simp [here]

/-- To change an execution leaves the registrations as they are. -/
theorem registration_changed (id id' : String) (f : Execution → Execution)
    (slots : List (String × Slot)) :
    (find? id (changed id' f slots)).map Slot.registration =
      (find? id slots).map Slot.registration := by
  rw [find?_changed, Option.map_map]
  congr 1
  funext s
  simp only [Function.comp_apply]
  split <;> rfl

/-! ## Calls -/

/-- A tracked id is refused. -/
theorem register_tracked {slot : Slot} (workflowId : String) (h : find? id g.slots = some slot) :
    g.register id workflowId =
      .error (.orchestration ("Execution '" ++ id ++ "' already exists")) := by
  simp only [register, h]

/-- Any other id is tracked from now on, under the next number. -/
theorem register_untracked (workflowId : String) (h : find? id g.slots = none) :
    g.register id workflowId =
      .ok ({ g with
        slots := g.slots ++ [(id, ⟨g.next, .pending id workflowId⟩)], next := g.next + 1 },
        g.next) := by
  simp only [register, h]

/-- What is found then is what was there, or the new run under its own id. -/
theorem find?_registered {workflowId : String} {slot : Slot}
    (there : find? id' (g.slots ++ [(id, ⟨g.next, .pending id workflowId⟩)]) = some slot) :
    find? id' g.slots = some slot ∨ id' = id ∧ slot = ⟨g.next, .pending id workflowId⟩ := by
  rw [find?_append, Option.or_eq_some_iff] at there
  rcases there with there | ⟨_, there⟩
  · exact .inl there
  · split at there
    next own => exact .inr ⟨own.symm, (Option.some.inj there).symm⟩
    next => cases there

theorem publish_tracked {slot : Slot} (u : StatusUpdate)
    (h : find? u.executionId g.slots = some slot) :
    g.publish u = .ok { g with slots := changed u.executionId (·.apply u) g.slots } := by
  simp only [publish, Registry.slot, h]
  rfl

theorem finish_tracked {slot : Slot} (o : Outcome) (h : find? o.executionId g.slots = some slot) :
    g.finish o = { g with
      slots := changed o.executionId
        (·.apply ⟨o.executionId, o.status, some o.results, o.error⟩) g.slots
      outcomes := (slot.registration, o) :: g.outcomes } := by
  simp only [finish, h]

theorem registration_finish (g : Registry) (id : String) (o : Outcome) :
    (find? id (g.finish o).slots).map Slot.registration =
      (find? id g.slots).map Slot.registration := by
  unfold finish
  split
  · rfl
  · dsimp only
    rw [registration_changed]

theorem registration_publish (id : String) {u : StatusUpdate} (h : g.publish u = .ok g') :
    (find? id g'.slots).map Slot.registration = (find? id g.slots).map Slot.registration := by
  cases known : find? u.executionId g.slots with
  | none =>
    simp only [publish, slot, known] at h
    cases h
  | some s =>
    rw [publish_tracked u known] at h
    cases h
    rw [registration_changed]

theorem slots_cancel {accepted : Bool} (h : g.cancel id = .ok (g', accepted)) :
    g'.slots = g.slots := by
  cases known : find? id g.slots with
  | none =>
    simp only [cancel, slot, known] at h
    cases h
  | some s =>
    simp only [cancel, slot, known, bind, Except.bind] at h
    split at h <;> cases h <;> rfl

/-- An update records no outcome. -/
theorem received?_publish {u : StatusUpdate} (h : g.publish u = .ok g') (n : Nat) :
    g'.received? n = g.received? n := by
  cases known : find? u.executionId g.slots with
  | none =>
    simp only [publish, slot, known] at h
    cases h
  | some s =>
    rw [publish_tracked u known] at h
    cases h
    rfl

/-- To ask a run to stop records no outcome. -/
theorem received?_cancel {accepted : Bool} (h : g.cancel id = .ok (g', accepted)) (n : Nat) :
    g'.received? n = g.received? n := by
  cases known : find? id g.slots with
  | none =>
    simp only [cancel, slot, known] at h
    cases h
  | some s =>
    simp only [cancel, slot, known, bind, Except.bind] at h
    split at h <;> cases h <;> rfl

/-- To forget a run drops its registration and nothing else. -/
theorem forget_keeps (g : Registry) (id : String) :
    (∀ n, (g.forget id).1.received? n = g.received? n) ∧
      ∀ {id' slot}, find? id' (g.forget id).1.slots = some slot → find? id' g.slots = some slot := by
  unfold forget
  split
  · exact ⟨fun _ => rfl, fun there => there⟩
  · split
    · exact ⟨fun _ => rfl, fun there => there⟩
    · refine ⟨fun _ => rfl, fun {id' slot} there => ?_⟩
      dsimp only at there
      rw [find?_filter] at there
      split at there
      · cases there
      · exact there

/-- To forget a run leaves the others as they are. -/
theorem find?_forget (g : Registry) (other : id ≠ id') :
    find? id (g.forget id').1.slots = find? id g.slots := by
  unfold forget
  split
  · rfl
  · split
    · rfl
    · dsimp only
      rw [find?_filter, if_neg other]

/-- An outcome is recorded for one registration. -/
theorem received?_cons (g : Registry) (slots : List (String × Slot)) (n m : Nat) (o : Outcome) :
    received? { g with slots, outcomes := (m, o) :: g.outcomes } n =
      if n = m then some o else g.received? n := by
  simp only [received?, List.find?_cons]
  by_cases same : n = m
  · simp [same]
  · have other : (m == n) = false := by simpa using Ne.symm same
    simp [same, other]

/-- The outcome of a tracked run is recorded for its registration. -/
theorem finish_recorded {slot : Slot} {o : Outcome} (h : find? o.executionId g.slots = some slot) :
    ∃ slot', find? o.executionId (g.finish o).slots = some slot' ∧
      slot'.registration = slot.registration ∧
      (g.finish o).received? slot.registration = some o := by
  have same := registration_finish g o.executionId o
  rw [h, Option.map_some] at same
  obtain ⟨slot', there, registration⟩ := Option.map_eq_some_iff.mp same
  refine ⟨slot', there, registration, ?_⟩
  rw [finish_tracked o h, received?_cons, if_pos rfl]

/-- Nothing is known of an id that is not tracked. -/
theorem untracked (h : find? id g.slots = none) :
    g.report id = .error (.executionNotFound id) ∧ g.cancel id = .error (.executionNotFound id) ∧
      g.forget id = (g, false) := by
  refine ⟨?_, ?_, ?_⟩
  · simp only [report, describe, slot, h]
    rfl
  · simp only [cancel, slot, h]
    rfl
  · simp only [forget, h]

/-- A run that there is a report on is tracked. -/
theorem tracked_of_report {a : StatusReport} (h : g.report id = .ok a) :
    ∃ slot, find? id g.slots = some slot := by
  cases known : find? id g.slots with
  | none => cases (untracked known).1.symm.trans h
  | some slot => exact ⟨slot, rfl⟩

/-- Before its outcome is recorded, a run is pending or running, can be canceled and is kept. -/
theorem unrecorded {slot : Slot} (h : find? id g.slots = some slot)
    (unknown : g.received? slot.registration = none) :
    g.report id =
        .ok ⟨id, if slot.execution.status = .pending then .pending else .running, none, none⟩ ∧
      g.cancel id = .ok ({ g with canceled := slot.registration :: g.canceled }, true) ∧
      g.forget id = (g, false) := by
  refine ⟨?_, ?_, ?_⟩
  · simp only [report, describe, Registry.slot, h, bind, Except.bind, unknown]
    by_cases pending : slot.execution.status = .pending
    · simp only [if_pos pending]
      rfl
    · simp only [if_neg pending]
      rfl
  · simp only [cancel, Registry.slot, h, bind, Except.bind, unknown]
    rfl
  · simp only [forget, h, unknown]

/-- From then on its report is the outcome, and it can only be dropped. -/
theorem recorded {slot : Slot} {o : Outcome} (h : find? id g.slots = some slot)
    (known : g.received? slot.registration = some o) (final : o.Final) :
    g.report id = .ok ⟨id, o.status, some o, o.error⟩ ∧
      g.cancel id = .ok (g, false) ∧
      g.forget id = ({ g with slots := g.slots.filter fun entry => entry.1 ≠ id }, true) := by
  refine ⟨?_, ?_, ?_⟩
  · obtain ⟨executionId, workflowId, status, results, error⟩ := o
    obtain ⟨ended, failed⟩ := final
    simp only [report, describe, Registry.slot, h, bind, Except.bind, known]
    cases status with
    | pending => cases ended
    | running => cases ended
    | failed => rfl
    | completed =>
      cases error with
      | none => rfl
      | some text => cases failed.mp rfl
    | canceled =>
      cases error with
      | none => rfl
      | some text => cases failed.mp rfl
  · simp only [cancel, Registry.slot, h, bind, Except.bind, known]
    rfl
  · simp only [forget, h, known]

/-! ## Waiters -/

section

variable {o : Outcome}

/-- A waiter is answered the outcome that is recorded, whether its registration is still tracked or
not. -/
theorem poll_received (id : String) (known : g.received? n = some o) :
    g.poll id n = some (.ok o) := by
  simp only [poll, watch, Watch.waitFor, known, Option.isSome_some, if_true]

theorem any_of_find? {slot : Slot} {slots : List (String × Slot)} (h : find? id slots = some slot) :
    slots.any (fun entry => entry.2.registration == slot.registration) = true := by
  induction slots with
  | nil => cases h
  | cons entry rest ih =>
    rw [find?] at h
    rw [List.any_cons, Bool.or_eq_true]
    split at h
    · cases h
      exact .inl (beq_self_eq_true _)
    · exact .inr (ih h)

/-- A waiter waits as long as its registration is tracked and has no outcome. -/
theorem poll_tracked {slot : Slot} (id' : String) (there : find? id g.slots = some slot)
    (unknown : g.received? slot.registration = none) : g.poll id' slot.registration = none := by
  simp only [poll, watch, Watch.waitFor, unknown, any_of_find? there, Option.isSome_none,
    Bool.false_eq_true, if_false, if_true]

theorem subscribe_ok (h : g.subscribe id = .ok n) :
    ∃ slot, find? id g.slots = some slot ∧ slot.registration = n := by
  cases known : find? id g.slots with
  | none =>
    simp only [subscribe, slot, known] at h
    cases h
  | some s =>
    simp only [subscribe, slot, known] at h
    cases h
    exact ⟨s, rfl, rfl⟩

end

/-! ## What calls keep -/

/-- What every call of a run or of a client keeps. -/
structure Sound (g : Registry) : Prop where
  /-- The next registration is new. -/
  numbered : ∀ {id slot}, find? id g.slots = some slot → slot.registration < g.next
  past : ∀ {n o}, g.received? n = some o → n < g.next
  /-- A registration has one id. -/
  distinct : ∀ {id id' slot slot'}, find? id g.slots = some slot → find? id' g.slots = some slot' →
    slot.registration = slot'.registration → id = id'
  /-- A tracked run knows its outcome. -/
  recorded : ∀ {id slot o}, find? id g.slots = some slot → g.received? slot.registration = some o →
    o.executionId = id ∧ o.Final ∧ slot.execution.Records o

/-- What is so in a later registry, compared with an earlier one. -/
structure Later (g g' : Registry) : Prop where
  next : g.next ≤ g'.next
  recorded : ∀ {n o}, g.received? n = some o → g'.received? n = some o
  /-- A registration that was given before was tracked before, and it has not become pending
  again. -/
  tracked : ∀ {id slot'}, find? id g'.slots = some slot' → slot'.registration < g.next →
    ∃ slot, find? id g.slots = some slot ∧ slot.registration = slot'.registration ∧
      (slot.execution.status ≠ .pending → slot'.execution.status ≠ .pending)

theorem Later.refl (g : Registry) : g.Later g where
  next := Nat.le_refl _
  recorded known := known
  tracked there _ := ⟨_, there, rfl, fun begun => begun⟩

theorem Later.trans {g'' : Registry} (h : g.Later g') (h' : g'.Later g'') : g.Later g'' where
  next := Nat.le_trans h.next h'.next
  recorded known := h'.recorded (h.recorded known)
  tracked := by
    intro id slot'' there before
    obtain ⟨slot', there', same', begun'⟩ := h'.tracked there (Nat.lt_of_lt_of_le before h.next)
    obtain ⟨slot, there, same, begun⟩ := h.tracked there' (same' ▸ before)
    exact ⟨slot, there, same.trans same', fun other => begun' (begun other)⟩

/-- No runs are tracked at first. -/
theorem sound_empty : empty.Sound where
  numbered there := by cases there
  past known := by cases known
  distinct there := by cases there
  recorded there := by cases there

section

variable (h : g.Sound)
include h

/-- No outcome is recorded for the next registration. -/
theorem Sound.received?_next : g.received? g.next = none := by
  cases known : g.received? g.next with
  | none => rfl
  | some o => exact absurd (h.past known) (Nat.lt_irrefl _)

/-- A new run is tracked under a new registration. -/
theorem Sound.register (id workflowId : String) :
    Sound { g with
        slots := g.slots ++ [(id, ⟨g.next, .pending id workflowId⟩)], next := g.next + 1 } ∧
      g.Later { g with
        slots := g.slots ++ [(id, ⟨g.next, .pending id workflowId⟩)], next := g.next + 1 } := by
  have old {id' slot'} (there : find? id' g.slots = some slot') : slot'.registration ≠ g.next :=
    Nat.ne_of_lt (h.numbered there)
  constructor
  · exact {
      numbered := by
        intro id' slot' there
        rcases find?_registered there with there | ⟨_, rfl⟩
        · exact Nat.lt_succ_of_lt (h.numbered there)
        · exact Nat.lt_succ_self _
      past := fun known => Nat.lt_succ_of_lt (h.past known)
      distinct := by
        intro id₁ id₂ slot₁ slot₂ there₁ there₂ same
        rcases find?_registered there₁ with was₁ | ⟨rfl, rfl⟩ <;>
          rcases find?_registered there₂ with was₂ | ⟨rfl, rfl⟩
        · exact h.distinct was₁ was₂ same
        · exact absurd same (old was₁)
        · exact absurd same.symm (old was₂)
        · rfl
      recorded := by
        intro id' slot' o there known
        rcases find?_registered there with there | ⟨_, rfl⟩
        · exact h.recorded there known
        · cases h.received?_next.symm.trans known }
  · exact {
      next := Nat.le_succ _
      recorded := fun known => known
      tracked := by
        intro id' slot' there before
        rcases find?_registered there with there | ⟨_, rfl⟩
        · exact ⟨slot', there, rfl, fun begun => begun⟩
        · exact absurd before (Nat.lt_irrefl _) }

/-- That a run is asked to stop changes nothing that is known of it. -/
theorem Sound.asked (canceled : List Nat) :
    Sound { g with canceled } ∧ g.Later { g with canceled } :=
  ⟨⟨h.numbered, h.past, h.distinct, h.recorded⟩,
    ⟨Nat.le_refl _, fun known => known, fun there _ => ⟨_, there, rfl, fun begun => begun⟩⟩⟩

/-- A run that is dropped leaves the others as they are. -/
theorem Sound.dropped (id : String) :
    Sound { g with slots := g.slots.filter fun entry => entry.1 ≠ id } ∧
      g.Later { g with slots := g.slots.filter fun entry => entry.1 ≠ id } := by
  have found {id' slot'} (there : find? id' (g.slots.filter fun entry => entry.1 ≠ id) =
      some slot') : find? id' g.slots = some slot' := by
    rw [find?_filter] at there
    split at there
    next => cases there
    next => exact there
  exact ⟨⟨fun there => h.numbered (found there), h.past,
      fun there there' => h.distinct (found there) (found there'),
      fun there => h.recorded (found there)⟩,
    ⟨Nat.le_refl _, fun known => known,
      fun there _ => ⟨_, found there, rfl, fun begun => begun⟩⟩⟩

variable {slot : Slot} (there : find? id g.slots = some slot)
include there

/-- A run without an outcome may move on. -/
theorem Sound.moved (unknown : g.received? slot.registration = none) (f : Execution → Execution)
    (begun : slot.execution.status ≠ .pending → (f slot.execution).status ≠ .pending) :
    Sound { g with slots := changed id f g.slots } ∧
      g.Later { g with slots := changed id f g.slots } := by
  -- What is found is what was there, or the run that moved on.
  have before {id' slot'} (there' : find? id' (changed id f g.slots) = some slot') :
      ∃ slot₀, find? id' g.slots = some slot₀ ∧ slot₀.registration = slot'.registration ∧
        (slot' = slot₀ ∨ slot₀ = slot ∧ slot' = { slot with execution := f slot.execution }) := by
    rw [find?_changed, Option.map_eq_some_iff] at there'
    obtain ⟨slot₀, there₀, rfl⟩ := there'
    by_cases own : id' = id
    · subst own
      rw [there, Option.some.injEq] at there₀
      subst there₀
      exact ⟨slot, there, by rw [if_pos rfl], .inr ⟨rfl, if_pos rfl⟩⟩
    · exact ⟨slot₀, there₀, by rw [if_neg own], .inl (if_neg own)⟩
  constructor
  · exact {
      numbered := by
        intro id' slot' there'
        obtain ⟨slot₀, there₀, same, _⟩ := before there'
        exact same ▸ h.numbered there₀
      past := h.past
      distinct := by
        intro id₁ id₂ slot₁ slot₂ there₁ there₂ same
        obtain ⟨_, there₁, same₁, _⟩ := before there₁
        obtain ⟨_, there₂, same₂, _⟩ := before there₂
        exact h.distinct there₁ there₂ (same₁.trans (same.trans same₂.symm))
      recorded := by
        intro id' slot' o there' known
        obtain ⟨slot₀, there₀, same, rfl | ⟨rfl, rfl⟩⟩ := before there'
        · exact h.recorded there₀ known
        · cases unknown.symm.trans known }
  · exact {
      next := Nat.le_refl _
      recorded := fun known => known
      tracked := by
        intro id' slot' there' _
        obtain ⟨slot₀, there₀, same, rfl | ⟨rfl, rfl⟩⟩ := before there'
        · exact ⟨slot', there₀, rfl, fun begun => begun⟩
        · exact ⟨slot₀, there₀, rfl, begun⟩ }

omit h in
/-- An outcome that its execution knows already changes no execution. -/
theorem find?_finish {o : Outcome} (own : o.executionId = id) (final : o.Final)
    (records : slot.execution.Records o) (id' : String) :
    find? id' (g.finish o).slots = find? id' g.slots := by
  subst own
  rw [finish_tracked o there, find?_changed]
  cases known : find? id' g.slots with
  | none => rfl
  | some slot' =>
    rw [Option.map_some]
    split
    next own =>
      rw [own, there, Option.some.injEq] at known
      subst known
      rw [records.apply final.ended]
    next => rfl

/-- The outcome of a run is recorded once its execution knows it. -/
theorem Sound.finish {o : Outcome} (unknown : g.received? slot.registration = none)
    (own : o.executionId = id) (final : o.Final) (records : slot.execution.Records o) :
    (g.finish o).Sound ∧ g.Later (g.finish o) := by
  have found := find?_finish there own final records
  have received (n : Nat) : (g.finish o).received? n =
      if n = slot.registration then some o else g.received? n := by
    rw [finish_tracked o (own ▸ there)]
    exact received?_cons ..
  have next : (g.finish o).next = g.next := by rw [finish_tracked o (own ▸ there)]
  constructor
  · exact {
      numbered := fun {id' slot'} there' => next ▸ h.numbered (found id' ▸ there')
      past := by
        intro n o' known
        rw [received] at known
        rw [next]
        split at known
        next same => exact same ▸ h.numbered there
        next => exact h.past known
      distinct := fun {id₁ id₂ slot₁ slot₂} there₁ there₂ =>
        h.distinct (found id₁ ▸ there₁) (found id₂ ▸ there₂)
      recorded := by
        intro id' slot' o' there' known
        rw [found] at there'
        rw [received] at known
        split at known
        next same =>
          cases known
          have sameId := h.distinct there' there same
          subst sameId
          rw [there, Option.some.injEq] at there'
          exact ⟨own, final, there' ▸ records⟩
        next => exact h.recorded there' known }
  · exact {
      next := Nat.le_of_eq next.symm
      recorded := by
        intro n o' known
        rw [received]
        split
        next same => cases (same ▸ unknown).symm.trans known
        next => exact known
      tracked := fun {id' slot'} there' _ =>
        ⟨slot', found id' ▸ there', rfl, fun begun => begun⟩ }

end

end Registry

end Automation
