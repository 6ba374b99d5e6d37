import Automation.Proofs.Walk.Account

/-!
# Runs that are canceled

A run is compared with the run that is never canceled, from the same state and with the same
handlers. Until a check finds it to be asked to stop the two are one run: with as many checks as
results, as many visits as results, and two events for each (`Paced`). So what a canceled run
leaves is the beginning of what the other one leaves (`Cut`); and if the other one ends before that
check comes, they are the same.
-/

namespace Automation

/-- Services whose checks answer by their number, and which keep an account. -/
def Services.stoppedBy (services : Services (StateM σ)) (stop : Nat → Bool) :
    Services (StateM (σ × Account)) :=
  { services.recounted with
    canceled := fun (w, a) =>
      (stop a.log.checks.length, w, a.check (stop a.log.checks.length)) }

theorem Services.stoppedBy_accounting (services : Services (StateM σ)) (stop : Nat → Bool) :
    (services.stoppedBy stop).Accounting where
  canceled _ _ := ⟨_, _, rfl⟩
  handle _ _ _ _ := ⟨_, _, rfl⟩
  emit _ _ _ := ⟨_, rfl⟩
  publish _ _ _ := ⟨_, _, rfl⟩

/-- No check finds the run to be asked to stop. -/
def never (_ : Nat) : Bool := false

/-- The first check that finds the run to be asked to stop is the one of a number. -/
structure FirstStop (stop : Nat → Bool) (k : Nat) : Prop where
  before : ∀ i < k, stop i = false
  there : stop k = true

/-! ## What two runs have in common -/

/-- A run that comes to its next check: it had one check, one visit and two events for each result,
and one event before them. -/
structure Paced (results : Results) (a : Account) : Prop where
  checks : a.log.checks.length = results.length
  visits : a.log.visits.length = results.length
  events : a.events.length = 2 * results.length + 1

theorem Paced.length_check {results : Results} {a : Account} (h : Paced results a)
    (seen : Bool) : (a.check seen).log.checks.length = results.length + 1 := by
  simp [Account.check, h.checks]

/-- An executed node, after a check, keeps a run paced. -/
theorem Paced.execute {results : Results} {a : Account} (h : Paced results a) (r : RunRequest)
    (n : Node) (context : Fields) (result : NodeResult) :
    Paced (results ++ [(n.id, result)])
      ((((a.check false).tell ⟨r.executionId, n.started⟩).handle ⟨n, context, .ok result⟩).tell
        ⟨r.executionId, .nodeFinished n.id result.success⟩) where
  checks := by simp [Account.tell, Account.handle, Account.check, h.checks]
  visits := by simp [Account.tell, Account.handle, Account.check, h.visits]
  events := by
    simp only [Account.tell, Account.handle, Account.check, List.length_append,
      List.length_singleton, h.events]
    omega

/-- What a walk leaves that is canceled before a node of a number: the beginning of what the whole
walk leaves. -/
structure Cut (k : Nat) (whole cut : Walked × σ × Account) : Prop where
  ending : cut.1.ending = .canceled
  results : cut.1.results <+: whole.1.results
  visits : cut.2.2.log.visits <+: whole.2.2.log.visits
  events : cut.2.2.events <+: whole.2.2.events
  length_results : cut.1.results.length = k
  length_visits : cut.2.2.log.visits.length = k
  length_events : cut.2.2.events.length = 2 * k + 1

/-- How a walk with some checks stands to the whole walk, which is never canceled: it is cut where a
check finds it to be asked to stop, and else it is the whole walk. -/
structure InStep (stop : Nat → Bool) (whole walked : Walked × σ × Account) : Prop where
  cut : ∀ k, FirstStop stop k → k < whole.2.2.log.checks.length → Cut k whole walked
  same : (∀ i < whole.2.2.log.checks.length, stop i = false) → walked = whole

/-- A walk that ends before it is asked to stop is the whole walk. -/
theorem InStep.ended {stop : Nat → Bool} {results : Results} {a : Account}
    (paced : Paced results a) (unstopped : ∀ i < results.length + 1, stop i = false)
    {whole : Walked × σ × Account} (last : whole.2.2.log.checks = (a.check false).log.checks) :
    InStep stop whole whole where
  cut k first reached := by
    rw [last, paced.length_check] at reached
    exact absurd first.there (by simp [unstopped k reached])
  same _ := rfl

/-! ## The loop -/

section

variable (services : Services (StateM σ)) {stop : Nat → Bool} (policy : RevisitPolicy)
  {r : RunRequest}

/-- What coming to a node makes of a paced account. -/
theorem arrive_stoppedBy (stop : Nat → Bool) (n : Node) {results : Results} {a : Account}
    (paced : Paced results a) (goOn : Unit → StateM (σ × Account) Walked) (w : σ) :
    (arrive (services.stoppedBy stop) policy n results goOn).run (w, a) =
      if stop results.length then (⟨.canceled, results⟩, w, a.check (stop results.length))
      else if Results.has n.id results then
        (⟨policy.ending n.id, results⟩, w, a.check (stop results.length))
      else (goOn ()).run (w, a.check (stop results.length)) := by
  rw [← paced.checks]
  show (if stop a.log.checks.length then pure ⟨.canceled, results⟩
    else if Results.has n.id results then pure ⟨policy.ending n.id, results⟩
    else goOn ()).run (w, a.check (stop a.log.checks.length)) = _
  split
  · rfl
  · split <;> rfl

/-- Two walks that come to a node in step stay so, if going on to a new node does. -/
theorem arrive_inStep {n : Node} {results : Results} {a : Account} (paced : Paced results a)
    (unstopped : ∀ i < results.length, stop i = false)
    {goOn goOn' : Unit → StateM (σ × Account) Walked} {w : σ}
    (on : Results.has n.id results = false → (∀ i < results.length + 1, stop i = false) →
      InStep stop ((goOn ()).run (w, a.check false)) ((goOn' ()).run (w, a.check false)))
    (adds : ∃ seen executed fatal, Adds r results (a.check seen)
      ((arrive (services.stoppedBy never) policy n results goOn).run (w, a)).1
      ((arrive (services.stoppedBy never) policy n results goOn).run (w, a)).2.2 executed fatal) :
    InStep stop ((arrive (services.stoppedBy never) policy n results goOn).run (w, a))
      ((arrive (services.stoppedBy stop) policy n results goOn').run (w, a)) := by
  rw [arrive_stoppedBy services policy stop n paced]
  cases here : stop results.length with
  | true =>
    rw [if_pos rfl]
    generalize (arrive (services.stoppedBy never) policy n results goOn).run (w, a) = whole at adds
    obtain ⟨seen, executed, fatal, adds⟩ := adds
    have reached : results.length < whole.2.2.log.checks.length := by
      have le := adds.checks.length_le
      rw [paced.length_check] at le
      omega
    refine ⟨fun k first _ => ?_, fun unasked => ?_⟩
    · -- The first stop is here: before it nothing stops, and here the walk is stopped.
      have k_eq : k = results.length := by
        rcases Nat.lt_trichotomy k results.length with lt | eq | gt
        · exact absurd first.there (by simp [unstopped k lt])
        · exact eq
        · exact absurd here (by simp [first.before _ gt])
      subst k_eq
      exact {
        ending := rfl
        results := adds.results ▸ List.prefix_append _ _
        visits := adds.visits
        events := adds.events ▸ List.prefix_append _ _
        length_results := rfl
        length_visits := paced.visits
        length_events := paced.events }
    · exact absurd here (by simp [unasked _ reached])
  | false =>
    have further (i : Nat) (lt : i < results.length + 1) : stop i = false := by
      rcases Nat.lt_succ_iff_lt_or_eq.mp lt with before | rfl
      · exact unstopped i before
      · exact here
    rw [arrive_stoppedBy services policy never n paced]
    simp only [never, Bool.false_eq_true, if_false]
    split
    · exact .ended paced further rfl
    next new => exact on (by simpa using new) further

/-- **Two walks go in step.** By induction on the room that is left. As long as no check stops the
second walk, both make the same visit; and every exit of the loop other than a stop ends both. -/
theorem walkFrom_inStep [Regex.Library] (room : Nat) (n : Node) {results : Results} {a : Account}
    (paced : Paced results a) (unstopped : ∀ i < results.length, stop i = false) (w : σ) :
    InStep stop ((walkFrom (services.stoppedBy never) policy r room n results).run (w, a))
      ((walkFrom (services.stoppedBy stop) policy r room n results).run (w, a)) := by
  induction room generalizing n results w a with
  | zero =>
    refine arrive_inStep services policy paced unstopped (fun _ further => ?_)
      (walkFrom_adds (services.stoppedBy_accounting never) policy (r := r) 0 n results w a)
    exact .ended paced further rfl
  | succ room ih =>
    refine arrive_inStep services policy paced unstopped (fun new further => ?_)
      (walkFrom_adds (services.stoppedBy_accounting never) policy (r := r) (room + 1) n results w a)
    obtain ⟨w', answer, run⟩ := visit_accounted services.recounted_accounting (r := r) n results w
      (a.check false)
    have visited (stop : Nat → Bool) :
        (visit (services.stoppedBy stop) r n results).run (w, a.check false) = _ := run
    rw [run_andThen, run_andThen, visited, visited]
    cases answer with
    | error e => exact .ended paced further rfl
    | ok result =>
      simp only [Except.map, Results.put_of_unvisited new]
      have executed := paced.execute r n (Results.context r.fields results) result
      split
      · exact .ended paced further rfl
      · split
        · exact .ended paced further rfl
        next next _ => exact ih next executed (by simpa using further) w'

/-- Two whole walks go in step. -/
theorem walk_inStep [Regex.Library] (stop : Nat → Bool) {a : Account} (paced : Paced [] a) (w : σ) :
    InStep stop ((walk (services.stoppedBy never) policy r).run (w, a))
      ((walk (services.stoppedBy stop) policy r).run (w, a)) := by
  unfold walk
  split
  · -- Without a start node there is no check.
    refine ⟨fun k _ reached => ?_, fun _ => rfl⟩
    have reached : k < a.log.checks.length := reached
    rw [paced.checks] at reached
    exact absurd reached (Nat.not_lt_zero k)
  · exact walkFrom_inStep services policy _ _ paced (fun i lt => absurd lt (Nat.not_lt_zero i)) w

end

/-! ## Runs -/

/-- The id of the node that an event tells to start. -/
def EventKind.started? : EventKind → Option String
  | nodeStarted id _ => some id
  | _ => none

/-- The ids of the nodes that were told to start. -/
def Account.started (a : Account) : List String :=
  a.events.filterMap fun e => e.kind.started?

theorem started_events (executed : List Executed) :
    (executed.flatMap Executed.events).filterMap EventKind.started? =
      executed.map fun x => x.1.id := by
  induction executed with
  | nil => rfl
  | cons x rest ih =>
    rw [List.flatMap_cons, List.filterMap_append, ih]
    rfl

/-- The nodes that a run tells to start are those of its results, and the one whose handler
failed. -/
theorem Told.started {r : RunRequest} {o : Outcome} {a : Account} {executed : List Executed}
    {fatal : Option (Node × RunError)} (h : Told r o a executed fatal) :
    a.started = o.results.map Prod.fst ++ fatal.toList.map fun x => x.1.id := by
  obtain ⟨last, closes, events⟩ := h.events
  have silent : last.started? = none := by cases closes <;> rfl
  have ids : executed.map (Prod.fst ∘ Executed.entry) = executed.map fun x => x.1.id := rfl
  have fails : (fatal.toList.map fun x => x.1.started).filterMap EventKind.started? =
      fatal.toList.map fun x => x.1.id := by
    cases fatal <;> rfl
  have tagged : (fun e : Event => e.kind.started?) ∘ Event.mk r.executionId =
      EventKind.started? := rfl
  rw [Account.started, events, List.filterMap_map, tagged, List.filterMap_cons_none rfl,
    List.filterMap_append, List.filterMap_append, started_events, fails,
    List.filterMap_cons_none silent, h.results, List.map_map, ids, List.filterMap_nil,
    List.append_nil]

/-- What a run leaves: its outcome and its account. -/
def RunRequest.left [Regex.Library] (r : RunRequest) (services : Services (StateM (σ × Account)))
    (policy : RevisitPolicy) (w : σ) : Outcome × Account :=
  let (outcome, _, a) := (r.run services policy).run (w, .empty)
  (outcome, a)

/-- **A run that is canceled at the check of a number**, next to the run that is never canceled: its
results are the first ones of the other run, it asked the handlers what the other one asked for
these, it told what the other one told about them and that it is canceled, and no further node was
started. -/
structure CanceledAt (r : RunRequest) (k : Nat) (whole canceled : Outcome × Account) : Prop where
  reached : k ≤ whole.1.results.length
  outcome : canceled.1 =
    ⟨r.executionId, r.workflowId, .canceled, whole.1.results.take k, none⟩
  visits : canceled.2.log.visits = whole.2.log.visits.take k
  events : canceled.2.events =
    whole.2.events.take (2 * k + 1) ++ [⟨r.executionId, .runCanceled⟩]
  started : canceled.2.started = canceled.1.results.map Prod.fst

/-- A beginning of a list is its first elements. -/
theorem eq_take_of_prefix {short long : List α} {k : Nat} (h : short <+: long)
    (length : short.length = k) : short = long.take k :=
  length ▸ List.prefix_iff_eq_take.mp h

/-- What a run that is canceled leaves, from what its walk leaves. -/
theorem Cut.canceledAt {r : RunRequest} {k : Nat} {whole cut : Walked × σ × Account}
    (h : Cut k whole cut) {executed : List Executed} {fatal : Option (Node × RunError)}
    (told : Told r (r.outcome cut.1) (r.closed cut.1 cut.2.2) executed fatal) :
    CanceledAt r k (r.outcome whole.1, r.closed whole.1 whole.2.2)
      (r.outcome cut.1, r.closed cut.1 cut.2.2) where
  reached := h.length_results ▸ h.results.length_le
  outcome := by
    simp only [RunRequest.outcome, h.ending, ← eq_take_of_prefix h.results h.length_results]
    rfl
  visits := eq_take_of_prefix h.visits h.length_visits
  events := by
    show cut.2.2.events ++ [_] = (whole.2.2.events ++ [_]).take (2 * k + 1) ++ [_]
    rw [List.take_append_of_le_length (h.length_events ▸ h.events.length_le),
      ← eq_take_of_prefix h.events h.length_events, h.ending]
    rfl
  started := by
    have alive : fatal = none := by
      cases fatal with
      | none => rfl
      | some x =>
        have failed : cut.1.ending.status = .failed := (told.failed x rfl).1
        simp [h.ending, Ending.status] at failed
    simpa [alive] using told.started

/-- **Canceling cuts a run short, and does nothing else to it.** For every request, every policy,
every handler and every course of the checks: if the first check to find the run asked to stop is
one that the run that is never canceled comes to, the run is canceled there. If no such check finds
it asked to stop, the run has the outcome and the account of the run that is never canceled. -/
theorem run_canceled [Regex.Library] (services : Services (StateM σ)) (policy : RevisitPolicy)
    (r : RunRequest) (w : σ) (stop : Nat → Bool) :
    let whole := r.left (services.stoppedBy never) policy w
    let run := r.left (services.stoppedBy stop) policy w
    (∀ k, FirstStop stop k → k < whole.2.log.checks.length → CanceledAt r k whole run) ∧
      ((∀ i < whole.2.log.checks.length, stop i = false) → run = whole) := by
  -- Before the walk the checks play no part.
  obtain ⟨w₁, around⟩ : ∃ w₁, ∀ stop,
      let walked := (walk (services.stoppedBy stop) policy r).run (w₁, r.opened)
      r.left (services.stoppedBy stop) policy w =
        (r.outcome walked.1, r.closed walked.1 walked.2.2) := ⟨_, fun _ => rfl⟩
  have paced : Paced [] r.opened := ⟨rfl, rfl, rfl⟩
  have inStep := walk_inStep services policy (r := r) stop paced w₁
  obtain ⟨executed, fatal, told⟩ := run_accounted (services.stoppedBy_accounting stop) policy r w
  replace told : Told r (r.left (services.stoppedBy stop) policy w).1
    (r.left (services.stoppedBy stop) policy w).2 executed fatal := told
  simp only [around] at told ⊢
  refine ⟨fun k first reached => ?_, fun unstopped => ?_⟩
  · exact (inStep.cut k first reached).canceledAt told
  · rw [inStep.same unstopped]

end Automation
