import Automation.Proofs.Walk.Prescribed

/-!
# Runs walk as their graph prescribes

The loop of a run keeps the invariant `Walking`: the log so far is a path of the graph that has not
come to an end node, and the node to come is where the graph leads. Every exit of the loop makes of
it a prescribed walk (`walkFrom_prescribed`), and a run is a walk with reports around it
(`run_of_walk`).

The loop counts the room that is left for further nodes. It never runs out: the ids of the executed
nodes are distinct ids of the graph, so that with no room left every id was visited
(`Walking.room_of_new`).
-/

namespace Automation

/-! ## Results under new ids -/

namespace Results

theorem has_iff {id : String} {results : Results} :
    has id results = true ↔ id ∈ results.map Prod.fst := by
  simp [has]

/-- The result of a new id goes to the end. -/
theorem put_of_new {id : String} {results : Results} (new : id ∉ results.map Prod.fst)
    (result : NodeResult) : put id result results = results ++ [(id, result)] := by
  induction results with
  | nil => rfl
  | cons entry rest ih =>
    simp only [List.map_cons, List.mem_cons, not_or] at new
    rw [put, if_neg (Ne.symm new.1), ih new.2, List.cons_append]

end Results

/-! ## Logs that grow -/

namespace Log

/-- The log after a check. -/
def check (answer : Bool) (log : Log) : Log :=
  { log with checks := log.checks ++ [answer] }

/-- The log after a visit. -/
def visit (v : Visit) (log : Log) : Log :=
  { log with visits := log.visits ++ [v] }

variable (log : Log)

@[simp] theorem checks_check (answer : Bool) : (log.check answer).checks = log.checks ++ [answer] :=
  rfl

@[simp] theorem visits_check (answer : Bool) : (log.check answer).visits = log.visits := rfl

@[simp] theorem executed_check (answer : Bool) : (log.check answer).executed = log.executed := rfl

@[simp] theorem results_check (answer : Bool) : (log.check answer).results = log.results := rfl

@[simp] theorem checks_visit (v : Visit) : (log.visit v).checks = log.checks := rfl

@[simp] theorem visits_visit (v : Visit) : (log.visit v).visits = log.visits ++ [v] := rfl

@[simp] theorem executed_visit_ok (n : Node) (context : Fields) (result : NodeResult) :
    (log.visit ⟨n, context, .ok result⟩).executed = log.executed ++ [n] := by
  simp [executed, Except.toOption]

@[simp] theorem executed_visit_error (n : Node) (context : Fields) (e : RunError) :
    (log.visit ⟨n, context, .error e⟩).executed = log.executed := by
  simp [executed, Except.toOption]

@[simp] theorem results_visit_ok (n : Node) (context : Fields) (result : NodeResult) :
    (log.visit ⟨n, context, .ok result⟩).results = log.results ++ [(n.id, result)] := by
  simp [results, Except.toOption]

@[simp] theorem results_visit_error (n : Node) (context : Fields) (e : RunError) :
    (log.visit ⟨n, context, .error e⟩).results = log.results := by
  simp [results, Except.toOption]

/-- The results are those of the executed nodes. -/
theorem ids_results : log.results.map Prod.fst = log.executed.map Node.id := by
  simp only [results, executed, List.map_filterMap]
  congr 1
  funext v
  cases v.answer <;> rfl

theorem length_results : log.results.length = log.executed.length := by
  simpa using congrArg List.length log.ids_results

/-- If every visit was answered with a result, every visit executed its node. -/
theorem length_executed {log : Log} (answered : ∀ v ∈ log.visits, ∃ result, v.answer = .ok result) :
    log.executed.length = log.visits.length := by
  have every : ∀ v ∈ log.visits, (v.answer.toOption.map fun _ => v.node).isSome := by
    intro v hv
    obtain ⟨result, ok⟩ := answered v hv
    simp [ok, Except.toOption]
  simpa [executed] using every

end Log

/-- What coming to a node makes of the log. -/
theorem run_arrive (o : Outside σ) (policy : RevisitPolicy) (n : Node) (results : Results)
    (goOn : Unit → StateM (σ × Log) Walked) (w : σ) (log : Log) :
    ∃ (w' : σ) (seen : Bool), (arrive o.logged policy n results goOn).run (w, log) =
      if seen then (⟨.canceled, results⟩, w', log.check seen)
      else if Results.has n.id results then (⟨policy.ending n.id, results⟩, w', log.check seen)
      else (goOn ()).run (w', log.check seen) := by
  refine ⟨(o.canceled.run w).2, (o.canceled.run w).1, ?_⟩
  show (if (o.canceled.run w).1 then pure ⟨.canceled, results⟩
    else if Results.has n.id results then pure ⟨policy.ending n.id, results⟩
    else goOn ()).run ((o.canceled.run w).2, log.check (o.canceled.run w).1) = _
  split
  · rfl
  · split <;> rfl

/-- What a visit makes of the log. -/
theorem run_visit (o : Outside σ) {r : RunRequest} (n : Node) (results : Results) (w : σ)
    (log : Log) :
    ∃ (w' : σ) (answer : Except RunError NodeResult), n.Answers answer ∧
      (visit o.logged r n results).run (w, log) =
        (answer.map fun result => Results.put n.id result results, w',
          log.visit ⟨n, Results.context r.fields results, answer⟩) := by
  let context := Results.context r.fields results
  let started := ((o.emit ⟨r.executionId, .nodeStarted n.id n.kind.typeName⟩).run w).2
  have honest := o.honest n context started
  cases handled : (o.handle n context).run started with
  | mk answer w' =>
    rw [handled] at honest
    have logged : (o.logged.handle n context).run (started, log) =
        (answer, w', log.visit ⟨n, context, answer⟩) := by
      show (((o.handle n context).run started).1, ((o.handle n context).run started).2,
        log.visit ⟨n, context, ((o.handle n context).run started).1⟩) = _
      rw [handled]
    have begun : ((o.logged.emit ⟨r.executionId, .nodeStarted n.id n.kind.typeName⟩).run
        (w, log)).2 = (started, log) := rfl
    unfold visit
    rw [run_andThen, begun, run_andThen, logged]
    cases answer with
    | error e => exact ⟨w', _, honest, rfl⟩
    | ok result => exact ⟨_, _, honest, rfl⟩

/-! ## The nodes of a path -/

namespace RunRequest

variable [Regex.Library] {r : RunRequest} {log : Log}

/-- The graph leads to nodes of the graph. -/
theorem Onward.mem {executed : List Node} {results : Results} {n : Node}
    (h : r.Onward executed results (.ok n)) : n ∈ r.nodes := by
  cases h with
  | start _ first => exact List.mem_of_find?_eq_some first
  | edge _ _ _ target => exact List.mem_of_find?_eq_some target

theorem mem_of_executed
    (visited : ∀ i v, log.visits[i]? = some v →
      r.Onward (log.executed.take i) (log.results.take i) (.ok v.node) ∧
        v.context = Results.context r.fields (log.results.take i))
    {n : Node} (h : n ∈ log.executed) : n ∈ r.nodes := by
  simp only [Log.executed, List.mem_filterMap, Option.map_eq_some_iff] at h
  obtain ⟨v, hv, _, _, rfl⟩ := h
  obtain ⟨i, at_i⟩ := List.getElem?_of_mem hv
  exact (visited i v at_i).1.mem

/-- A path has at most as many nodes as there are ids. -/
theorem Path.length_le (h : r.Path log) :
    log.results.length ≤ (r.nodes.map Node.id).toFinset.card := by
  rw [log.length_results, ← List.length_map (f := Node.id), ← List.toFinset_card_of_nodup h.distinct]
  refine Finset.card_le_card fun id hid => ?_
  simp only [List.mem_toFinset, List.mem_map] at hid ⊢
  obtain ⟨n, hn, rfl⟩ := hid
  exact ⟨n, mem_of_executed h.visited hn, rfl⟩

end RunRequest

variable [Regex.Library]

/-- A walk along a path that ends there is prescribed. -/
theorem Prescribed.of_ends {r : RunRequest} {policy : RevisitPolicy} {log : Log} {walked : Walked}
    (path : r.Path log) (results : walked.results = log.results)
    (ends : r.Ends policy log walked.ending) : Prescribed r policy log walked where
  path := path
  results := results
  ids := results ▸ log.ids_results
  bound := results ▸ path.length_le
  canceled := ends.exact.1
  completed := ends.exact.2.1
  failed := ends.exact.2.2

/-! ## The invariant of the loop -/

/-- **The invariant of the loop**, which is about to come to a node: every visit was answered with a
result, no executed node is an end, every check found the run not to be asked to stop, and the graph
leads to the node. -/
structure Walking (r : RunRequest) (log : Log) (n : Node) : Prop where
  distinct : (log.executed.map Node.id).Nodup
  visited : ∀ i v, log.visits[i]? = some v →
    r.Onward (log.executed.take i) (log.results.take i) (.ok v.node) ∧
      v.context = Results.context r.fields (log.results.take i)
  answered : ∀ v ∈ log.visits, ∃ result, v.answer = .ok result
  goesOn : ∀ m ∈ log.executed, m.isEnd = false
  checked : log.checks = List.replicate log.visits.length false
  next : r.Onward log.executed log.results (.ok n)

namespace Walking

variable {r : RunRequest} {log : Log} {n : Node}

/-- The loop starts at the first start node. -/
theorem init (first : r.start? = some n) : Walking r .empty n where
  distinct := List.nodup_nil
  visited := by simp [Log.empty]
  answered := by simp [Log.empty]
  goesOn := by simp [Log.empty, Log.executed]
  checked := rfl
  next := .start rfl first

theorem unseen (h : Walking r log n) : true ∉ log.checks := by
  simp [h.checked]

/-- What was executed so far is a path, whatever the check says. -/
theorem path_check (h : Walking r log n) (answer : Bool) : r.Path (log.check answer) where
  distinct := h.distinct
  visited := h.visited
  answered v hv := h.answered v (List.mem_of_mem_dropLast hv)
  ends m hm := h.goesOn m (List.mem_of_mem_dropLast hm)
  checked := by simp [h.checked]

/-- With the node to come the visits are still where the graph leads. -/
theorem visited_visit (h : Walking r log n) (answer : Except RunError NodeResult) :
    let log' := (log.check false).visit ⟨n, Results.context r.fields log.results, answer⟩
    ∀ i v, log'.visits[i]? = some v →
      r.Onward (log'.executed.take i) (log'.results.take i) (.ok v.node) ∧
        v.context = Results.context r.fields (log'.results.take i) := by
  intro log' i v hv
  have length := Log.length_executed h.answered
  -- The nodes and results of the first visits are the same with the new visit and without it.
  have same (i : Nat) (hi : i ≤ log.visits.length) :
      log'.executed.take i = log.executed.take i ∧ log'.results.take i = log.results.take i := by
    cases answer with
    | error e => simp [log']
    | ok result =>
      simp only [log', Log.executed_visit_ok, Log.results_visit_ok, Log.executed_check,
        Log.results_check]
      rw [List.take_append_of_le_length (by omega),
        List.take_append_of_le_length (by rw [log.length_results]; omega)]
      exact ⟨rfl, rfl⟩
  by_cases old : i < log.visits.length
  · rw [(same i (by omega)).1, (same i (by omega)).2]
    refine h.visited i v ?_
    exact (List.getElem?_append_left old).symm.trans hv
  · have last : i = log.visits.length := by
      obtain ⟨bound, _⟩ := List.getElem?_eq_some_iff.mp hv
      simp only [log', Log.visits_visit, Log.visits_check, List.length_append,
        List.length_singleton] at bound
      omega
    subst last
    simp only [log', Log.visits_visit, Log.visits_check, List.getElem?_concat_length,
      Option.some.injEq] at hv
    subst hv
    rw [(same _ (Nat.le_refl _)).1, (same _ (Nat.le_refl _)).2, ← length, List.take_length, length,
      ← length, ← log.length_results, List.take_length]
    exact ⟨h.next, rfl⟩

/-- With the node to come it is a path. -/
theorem path_visit (h : Walking r log n) (new : n.id ∉ log.executed.map Node.id)
    (answer : Except RunError NodeResult) :
    r.Path ((log.check false).visit ⟨n, Results.context r.fields log.results, answer⟩) where
  distinct := by
    cases answer with
    | error e => simpa using h.distinct
    | ok result => simpa [List.nodup_append] using ⟨h.distinct, by simpa using new⟩
  visited := h.visited_visit answer
  answered v hv := h.answered v (by simpa using hv)
  ends m hm := by
    cases answer with
    | error e => exact h.goesOn m (List.mem_of_mem_dropLast (by simpa using hm))
    | ok result => exact h.goesOn m (by simpa using hm)
  checked := by simp [h.checked, List.replicate_succ']

/-- The loop goes on to where the graph leads. -/
theorem step (h : Walking r log n) (new : n.id ∉ log.executed.map Node.id)
    (goesOn : n.isEnd = false) (result : NodeResult) {next : Node}
    (after : r.nodeAfter n (log.results ++ [(n.id, result)]) = .ok next) :
    Walking r ((log.check false).visit ⟨n, Results.context r.fields log.results, .ok result⟩)
      next where
  distinct := (h.path_visit new (.ok result)).distinct
  visited := h.visited_visit (.ok result)
  answered v hv := by
    rcases List.mem_append.mp hv with old | last
    · exact h.answered v old
    · exact ⟨result, by rw [List.mem_singleton.mp last]⟩
  goesOn m hm := by
    rw [Log.executed_visit_ok] at hm
    rcases List.mem_append.mp hm with old | last
    · exact h.goesOn m old
    · rw [List.mem_singleton.mp last, goesOn]
  checked := by simp [h.checked, List.replicate_succ']
  next := by
    have leads : r.Onward (log.executed ++ [n]) (log.results ++ [(n.id, result)]) _ :=
      RunRequest.onward_nodeAfter List.getLast?_concat goesOn
    rw [after] at leads
    simpa using leads

/-- **There is room for a new node**: the executed ids and the new one are distinct ids of the
graph. -/
theorem room_of_new (h : Walking r log n) (new : n.id ∉ log.executed.map Node.id) :
    log.results.length < r.nodes.length := by
  have distinct : (n.id :: log.executed.map Node.id).Nodup := List.nodup_cons.mpr ⟨new, h.distinct⟩
  -- Two nodes of the graph may share an id, but an id is not executed twice.
  have within : n.id :: log.executed.map Node.id ⊆ r.nodes.map Node.id := by
    intro id hid
    rcases List.mem_cons.mp hid with rfl | old
    · exact List.mem_map_of_mem h.next.mem
    · obtain ⟨m, hm, rfl⟩ := List.mem_map.mp old
      exact List.mem_map_of_mem (RunRequest.mem_of_executed h.visited hm)
  have fits := (distinct.subperm within).length_le
  simp only [List.length_cons, List.length_map] at fits
  rw [log.length_results]
  omega

end Walking

/-! ## The loop -/

section

variable {policy : RevisitPolicy} {r : RunRequest}

/-- Coming to a node makes a prescribed walk, if going on to a new node does. -/
theorem arrive_prescribed (o : Outside σ) {n : Node} {log : Log} (h : Walking r log n)
    {goOn : Unit → StateM (σ × Log) Walked}
    (on : n.id ∉ log.executed.map Node.id → ∀ w, Prescribed r policy
      ((goOn ()).run (w, log.check false)).2.2 ((goOn ()).run (w, log.check false)).1) (w : σ) :
    Prescribed r policy ((arrive o.logged policy n log.results goOn).run (w, log)).2.2
      ((arrive o.logged policy n log.results goOn).run (w, log)).1 := by
  obtain ⟨w', seen, run⟩ := run_arrive o policy n log.results goOn w log
  rw [run]
  cases seen with
  | true => exact .of_ends (h.path_check true) rfl (.canceled (by simp))
  | false =>
    have unseen : true ∉ (log.check false).checks := by simp [h.unseen]
    by_cases old : n.id ∈ log.executed.map Node.id
    · have has : Results.has n.id log.results = true := by rwa [Results.has_iff, log.ids_results]
      simp only [has, Bool.false_eq_true, if_false, if_true]
      refine .of_ends (h.path_check false) rfl ?_
      cases policy with
      | fail => exact .failed unseen (.cycle rfl h.next old)
      | complete => exact .returned unseen rfl ⟨n, h.next, old⟩
    · have new : ¬Results.has n.id log.results = true := by rwa [Results.has_iff, log.ids_results]
      simp only [new, Bool.false_eq_true, if_false]
      exact on old w'

/-- A visit whose handler answers with an error stops the run with it. -/
theorem Walking.stops {n : Node} {log : Log} (h : Walking r log n)
    (new : n.id ∉ log.executed.map Node.id) {e : RunError} (answer : n.Answers (.error e)) :
    r.Stops policy
      ((log.check false).visit ⟨n, Results.context r.fields log.results, .error e⟩) e := by
  cases answer with
  | unsupported unknown =>
    exact .unsupported (by simpa using h.next) (by simpa using new) unknown
  | sandbox text script =>
    exact .sandbox (by simpa using h.next) (by simpa using new) script (by simp)

/-- **The loop walks as the graph prescribes.** By induction on the room that is left: every exit of
the loop makes a prescribed walk of the invariant, and the next round keeps it. -/
theorem walkFrom_prescribed (o : Outside σ) (room : Nat) {n : Node} {log : Log}
    (h : Walking r log n) (enough : r.nodes.length ≤ room + log.results.length) (w : σ) :
    Prescribed r policy ((walkFrom o.logged policy r room n log.results).run (w, log)).2.2
      ((walkFrom o.logged policy r room n log.results).run (w, log)).1 := by
  induction room generalizing n log w with
  | zero =>
    -- Without room every id was visited, so that the node to come is not new.
    refine arrive_prescribed o h (fun new => ?_) w
    have room := h.room_of_new new
    omega
  | succ room ih =>
    refine arrive_prescribed o h (fun new w => ?_) w
    obtain ⟨w', answer, honest, run⟩ := run_visit (r := r) o n log.results w (log.check false)
    rw [run_andThen, run]
    have unseen (v : Visit) : true ∉ ((log.check false).visit v).checks := by simp [h.unseen]
    cases answer with
    | error e =>
      show Prescribed r policy ((log.check false).visit ⟨n, _, .error e⟩) ⟨.failed e, log.results⟩
      exact .of_ends (h.path_visit new (.error e)) (by simp) (.failed (unseen _) (h.stops new honest))
    | ok result =>
      let log' := (log.check false).visit ⟨n, Results.context r.fields log.results, .ok result⟩
      have path : r.Path log' := h.path_visit new (.ok result)
      have results : log'.results = log.results ++ [(n.id, result)] := by simp [log']
      simp only [Except.map]
      -- The id is new, so that the loop's results are those of the log.
      rw [Results.put_of_new (by rwa [log.ids_results]), ← results]
      by_cases atEnd : n.isEnd = true
      · rw [if_pos atEnd]
        show Prescribed r policy log' ⟨.completed, log'.results⟩
        exact .of_ends path rfl (.atEnd (unseen _) ⟨n, by simp [log'], atEnd⟩)
      · have goesOn : n.isEnd = false := by simpa using atEnd
        rw [if_neg atEnd]
        cases after : r.nodeAfter n log'.results with
        | error e =>
          have leads : r.Onward log'.executed log'.results _ :=
            RunRequest.onward_nodeAfter (by simp [log']) goesOn
          rw [after] at leads
          exact .of_ends path rfl (.failed (unseen _) (.blocked leads))
        | ok next =>
          refine ih (h.step new goesOn result (results ▸ after)) ?_ w'
          show r.nodes.length ≤ room + log'.results.length
          rw [results, List.length_append, List.length_singleton]
          omega

/-- **A walk is as its graph prescribes**, whatever its outside answers. -/
theorem walk_prescribed (o : Outside σ) (policy : RevisitPolicy) (r : RunRequest) (w : σ) :
    Prescribed r policy ((walk o.logged policy r).run (w, .empty)).2.2
      ((walk o.logged policy r).run (w, .empty)).1 := by
  unfold walk
  cases first : r.start? with
  | none =>
    have path : r.Path .empty :=
      ⟨List.nodup_nil, by simp [Log.empty], by simp [Log.empty], by simp [Log.empty, Log.executed],
        List.nil_prefix⟩
    show Prescribed r policy .empty ⟨.failed .noStartNode, []⟩
    exact .of_ends path rfl (.failed (by simp [Log.empty]) (.blocked (.noStart rfl first)))
  | some n => exact walkFrom_prescribed o r.nodes.length (.init first) (by simp) w

/-- The outcome of a run is that of a walk, which leaves the same log. What is reported before and
after the walk makes no difference. -/
theorem run_of_walk (o : Outside σ) (policy : RevisitPolicy) (r : RunRequest) (w : σ) :
    ∃ w', ((r.run o.toServices policy).run w).1 =
        r.outcome ((walk o.logged policy r).run (w', .empty)).1 ∧
      ((r.run o.logged policy).run (w, .empty)).2.2 =
        ((walk o.logged policy r).run (w', .empty)).2.2 := by
  rw [← run_logged o.toServices policy r w .empty]
  exact ⟨_, rfl, rfl⟩

variable [Web.Library]

/-- A run in an engine walks as its graph prescribes, whatever the other tasks of the engine do between
its steps. -/
theorem engine_run_walks (d : Dispatcher) (registration : Nat) (policy : RevisitPolicy)
    (r : RunRequest) :
    (r.run (EngineState.services d registration) policy).Always fun outcome =>
      ∃ log walked, outcome = r.outcome walked ∧ Prescribed r policy log walked := by
  refine Activity.Always.mono (run_scripted d registration policy r) fun outcome h => ?_
  obtain ⟨script, rfl⟩ := h
  obtain ⟨w', outcome, _⟩ := run_of_walk Script.outside policy r script
  exact ⟨_, _, outcome, walk_prescribed Script.outside policy r w'⟩

/-- **Runs walk as their graph prescribes.** For every request, every policy and everything outside
(when the run is asked to stop, and what the handlers answer), the outcome of a run is the outcome
of a walk that its graph prescribes, as the log of what the run asked and was answered shows. So it is
in an engine, too, whatever the dispatcher, the session and the other tasks are. -/
theorem run_prescribed (policy : RevisitPolicy) (r : RunRequest) :
    (∀ {σ : Type} (o : Outside σ) (w : σ),
      ∃ walked, ((r.run o.toServices policy).run w).1 = r.outcome walked ∧
        Prescribed r policy ((r.run o.logged policy).run (w, .empty)).2.2 walked) ∧
    ∀ (d : Dispatcher) (registration : Nat),
      (r.run (EngineState.services d registration) policy).Always fun outcome =>
        ∃ log walked, outcome = r.outcome walked ∧ Prescribed r policy log walked := by
  refine ⟨fun o w => ?_, fun d registration => engine_run_walks d registration policy r⟩
  obtain ⟨w', outcome, log⟩ := run_of_walk o policy r w
  exact ⟨_, outcome, log ▸ walk_prescribed o policy r w'⟩

end

end Automation
