import Automation.Proofs.Walk.Outside
import Mathlib.Data.Finset.Card

/-!
# The walk that a graph prescribes

What a graph says about a run, without the loop that runs it: where it leads after some nodes
(`RunRequest.Onward`), when a run stops there and with which ending (`RunRequest.Ends`), and what
this makes of a whole run (`Prescribed`).

These are relations and not functions, and say on their own what a run does. That they leave no choice
is proved here: the graph leads to one node or one error (`Onward.unique`), a run stops with one error
(`Stops.unique`), and no two endings fit it (`Ends.exact`).
-/

namespace Automation

/-! ## Where a graph leads -/

variable [Regex.Library]

/-- The edge that a run takes after a node: after a decision the one that the results so far choose,
after any other node the first one in the order of the edges. -/
def RunRequest.Follows (r : RunRequest) (results : Results) (m : Node) (e : Edge) : Prop :=
  if m.isDecision then
    Edge.choose? (outgoing r.edges m.id) (Results.context r.fields results) = some e
  else r.edges.find? (fun e => e.source = m.id) = some e

/-- Where a graph leads a run that has executed some nodes with some results: to the first start
node, and from then on to the first node of the id that the edge taken names; or to the error that
there is no such node. After an end node it leads nowhere. -/
inductive RunRequest.Onward (r : RunRequest) (executed : List Node) (results : Results) :
    Except RunError Node → Prop where
  | start {n} (empty : executed = []) (first : r.start? = some n) : Onward r executed results (.ok n)
  | noStart (empty : executed = []) (missing : r.start? = none) :
    Onward r executed results (.error .noStartNode)
  | edge {m e n} (last : executed.getLast? = some m) (goesOn : m.isEnd = false)
    (follows : r.Follows results m e) (target : r.node? e.target = some n) :
    Onward r executed results (.ok n)
  | deadEnd {m} (last : executed.getLast? = some m) (goesOn : m.isEnd = false)
    (plain : m.isDecision = false) (missing : ∀ e ∈ r.edges, e.source ≠ m.id) :
    Onward r executed results (.error (.noOutgoingEdge m.id))
  | unmatched {m} (last : executed.getLast? = some m) (goesOn : m.isEnd = false)
    (decision : m.isDecision = true)
    (missing : Edge.choose? (outgoing r.edges m.id) (Results.context r.fields results) = none) :
    Onward r executed results (.error (.unmatchedDecision m.id))
  | unresolved {m e} (last : executed.getLast? = some m) (goesOn : m.isEnd = false)
    (follows : r.Follows results m e) (missing : r.node? e.target = none) :
    Onward r executed results (.error (.unresolvedTarget m.id e.target))

namespace Log

/-- The nodes that were executed: those whose handlers answered with a result. -/
def executed (log : Log) : List Node :=
  log.visits.filterMap fun v => v.answer.toOption.map fun _ => v.node

/-- The results of the nodes that were executed, under their ids. -/
def results (log : Log) : Results :=
  log.visits.filterMap fun v => v.answer.toOption.map fun result => (v.node.id, result)

/-- Whether the last node that was executed is an end. -/
def AtEnd (log : Log) : Prop :=
  ∃ n, log.executed.getLast? = some n ∧ n.isEnd = true

end Log

/-- Whether the graph leads back to an id that was visited. -/
def RunRequest.Returns (r : RunRequest) (log : Log) : Prop :=
  ∃ n, r.Onward log.executed log.results (.ok n) ∧ n.id ∈ log.executed.map Node.id

/-- The error that ends a run at the point where it stops. -/
inductive RunRequest.Stops (r : RunRequest) (policy : RevisitPolicy) (log : Log) : RunError → Prop
    where
  /-- The graph leads to no node. -/
  | blocked {e} (h : r.Onward log.executed log.results (.error e)) : Stops r policy log e
  /-- The graph leads to a node of an unknown type. -/
  | unsupported {n} (next : r.Onward log.executed log.results (.ok n))
    (new : n.id ∉ log.executed.map Node.id) (unknown : n.isUnsupported = true) :
    Stops r policy log (.unsupportedNodeType n.id)
  /-- The graph leads to a script that violates a limit. -/
  | sandbox {n text} (next : r.Onward log.executed log.results (.ok n))
    (new : n.id ∉ log.executed.map Node.id) (script : n.RunsScript)
    (answer : log.visits.getLast?.map Visit.answer = some (.error (.scriptSandbox n.id text))) :
    Stops r policy log (.scriptSandbox n.id text)
  /-- The graph leads back to a node, which the policy does not allow. -/
  | cycle {n} (h : policy = .fail) (next : r.Onward log.executed log.results (.ok n))
    (old : n.id ∈ log.executed.map Node.id) : Stops r policy log (.cycleDetected n.id)

/-- The ending of a run at the point where it stops. -/
inductive RunRequest.Ends (r : RunRequest) (policy : RevisitPolicy) (log : Log) : Ending → Prop where
  | canceled (seen : true ∈ log.checks) : Ends r policy log .canceled
  | atEnd (unseen : true ∉ log.checks) (h : log.AtEnd) : Ends r policy log .completed
  | returned (unseen : true ∉ log.checks) (h : policy = .complete) (back : r.Returns log) :
    Ends r policy log .completed
  | failed {e} (unseen : true ∉ log.checks) (h : r.Stops policy log e) :
    Ends r policy log (.failed e)

/-- **The path of a run.** The ids of the executed nodes are distinct. Each visit is to the node to
which the graph leads after the nodes before it, in the context of the results before it. All visits
but the last were answered with results, all executed nodes but the last are no ends, and before
each visit a check did not find the run to be asked to stop. -/
structure RunRequest.Path (r : RunRequest) (log : Log) : Prop where
  distinct : (log.executed.map Node.id).Nodup
  visited : ∀ i v, log.visits[i]? = some v →
    r.Onward (log.executed.take i) (log.results.take i) (.ok v.node) ∧
      v.context = Results.context r.fields (log.results.take i)
  answered : ∀ v ∈ log.visits.dropLast, ∃ result, v.answer = .ok result
  ends : ∀ n ∈ log.executed.dropLast, n.isEnd = false
  checked : List.replicate log.visits.length false <+: log.checks

/-- **The walk that a graph prescribes**, of a run that left a log. Its results are those of the path
of the log, of which there are at most as many as there are ids. It is canceled if and only if a
check found it to be asked to stop. Otherwise it is completed if and only if the last node is an end
or the policy lets it end where the graph leads back, and else it fails with the error of the point
where it stopped. -/
structure Prescribed (r : RunRequest) (policy : RevisitPolicy) (log : Log) (walked : Walked) : Prop
    where
  path : r.Path log
  results : walked.results = log.results
  ids : walked.results.map Prod.fst = log.executed.map Node.id
  bound : walked.results.length ≤ (r.nodes.map Node.id).toFinset.card
  canceled : walked.ending = .canceled ↔ true ∈ log.checks
  completed : walked.ending = .completed ↔
    true ∉ log.checks ∧ (log.AtEnd ∨ policy = .complete ∧ r.Returns log)
  failed : ∀ e, walked.ending = .failed e ↔
    true ∉ log.checks ∧ ¬(log.AtEnd ∨ policy = .complete ∧ r.Returns log) ∧ r.Stops policy log e

/-! ## Only one way on, only one ending -/

namespace RunRequest

variable {r : RunRequest} {executed : List Node} {results : Results} {m : Node}

/-- The edge that the loop computes is the one to follow. -/
theorem follows_iff {e : Edge} : r.Follows results m e ↔ r.edgeAfter m results = .ok e := by
  unfold Follows edgeAfter outgoing
  rw [List.head?_filter]
  split
  · cases Edge.choose? (r.edges.filter fun e => e.source = m.id)
      (Results.context r.fields results) <;> simp
  · cases r.edges.find? fun e => e.source = m.id <;> simp

/-- The error that the loop computes says what is wrong with the edges. -/
theorem edgeAfter_error {error : RunError} (h : r.edgeAfter m results = .error error) :
    (m.isDecision = true ∧ error = .unmatchedDecision m.id ∧
      Edge.choose? (outgoing r.edges m.id) (Results.context r.fields results) = none) ∨
    (m.isDecision = false ∧ error = .noOutgoingEdge m.id ∧ ∀ e ∈ r.edges, e.source ≠ m.id) := by
  unfold edgeAfter at h
  split at h
  case isTrue decision =>
    cases chosen : Edge.choose? (outgoing r.edges m.id) (Results.context r.fields results) with
    | some e => simp [chosen] at h
    | none =>
      simp only [chosen, Except.error.injEq] at h
      exact .inl ⟨decision, h.symm, rfl⟩
  case isFalse plain =>
    cases found : (outgoing r.edges m.id).head? with
    | some e => simp [found] at h
    | none =>
      simp only [found, Except.error.injEq] at h
      refine .inr ⟨by simpa using plain, h.symm, ?_⟩
      simpa [outgoing, List.filter_eq_nil_iff] using found

/-- After a node that is no end the graph leads where the loop goes. -/
theorem onward_nodeAfter (last : executed.getLast? = some m) (goesOn : m.isEnd = false) :
    r.Onward executed results (r.nodeAfter m results) := by
  unfold nodeAfter
  cases edge : r.edgeAfter m results with
  | error e =>
    rcases edgeAfter_error edge with ⟨decision, rfl, missing⟩ | ⟨plain, rfl, missing⟩
    · exact .unmatched last goesOn decision missing
    · exact .deadEnd last goesOn plain missing
  | ok e =>
    dsimp only
    cases target : r.node? e.target with
    | some n => exact .edge last goesOn (follows_iff.mpr edge) target
    | none => exact .unresolved last goesOn (follows_iff.mpr edge) target

/-- After a node the graph leads nowhere but where the loop goes. -/
theorem Onward.eq_nodeAfter {x : Except RunError Node} (h : r.Onward executed results x)
    (last : executed.getLast? = some m) : m.isEnd = false ∧ x = r.nodeAfter m results := by
  unfold nodeAfter
  cases h with
  | start empty _ | noStart empty _ => simp [empty] at last
  | edge last' goesOn follows target =>
    obtain rfl := Option.some.inj (last.symm.trans last')
    exact ⟨goesOn, by simp [follows_iff.mp follows, target]⟩
  | deadEnd last' goesOn plain missing =>
    obtain rfl := Option.some.inj (last.symm.trans last')
    refine ⟨goesOn, ?_⟩
    have none : (outgoing r.edges m.id).head? = none := by
      simpa [outgoing, List.filter_eq_nil_iff] using missing
    simp [edgeAfter, plain, none]
  | unmatched last' goesOn decision missing =>
    obtain rfl := Option.some.inj (last.symm.trans last')
    exact ⟨goesOn, by simp [edgeAfter, decision, missing]⟩
  | unresolved last' goesOn follows missing =>
    obtain rfl := Option.some.inj (last.symm.trans last')
    exact ⟨goesOn, by simp [follows_iff.mp follows, missing]⟩

/-- The graph leads to one node, or to one error. -/
theorem Onward.unique {x y : Except RunError Node} (hx : r.Onward executed results x)
    (hy : r.Onward executed results y) : x = y := by
  cases last : executed.getLast? with
  | some m => rw [(hx.eq_nodeAfter last).2, (hy.eq_nodeAfter last).2]
  | none =>
    -- Nothing was executed: the graph leads to the first start node, if there is one.
    cases hx <;> cases hy <;> simp_all

/-- A run stops with one error. -/
theorem Stops.unique {policy : RevisitPolicy} {log : Log} {e e' : RunError}
    (h : r.Stops policy log e) (h' : r.Stops policy log e') : e = e' := by
  have known {n : Node} (script : n.RunsScript) : n.isUnsupported = false := by
    obtain ⟨s, kind⟩ := script
    simp [Node.isUnsupported, kind]
  -- The graph leads to one node or to one error. So two ways to stop stop at one node, and what the
  -- node is, and whether it was visited, tells which of them it is.
  cases h with
  | blocked h =>
    cases h' with
    | blocked h' => exact Except.error.inj (h.unique h')
    | unsupported next | sandbox next | cycle _ next => cases h.unique next
  | unsupported next new unknown =>
    cases h' with
    | blocked h' => cases next.unique h'
    | unsupported next' => rw [Except.ok.inj (next.unique next')]
    | sandbox next' _ script =>
      obtain rfl := Except.ok.inj (next.unique next')
      simp [known script] at unknown
    | cycle _ next' old =>
      obtain rfl := Except.ok.inj (next.unique next')
      exact absurd old new
  | sandbox next new script answer =>
    cases h' with
    | blocked h' => cases next.unique h'
    | unsupported next' _ unknown =>
      obtain rfl := Except.ok.inj (next.unique next')
      simp [known script] at unknown
    | sandbox next' _ _ answer' =>
      obtain rfl := Except.ok.inj (next.unique next')
      exact Except.error.inj (Option.some.inj (answer.symm.trans answer'))
    | cycle _ next' old =>
      obtain rfl := Except.ok.inj (next.unique next')
      exact absurd old new
  | cycle _ next old =>
    cases h' with
    | blocked h' => cases next.unique h'
    | unsupported next' new | sandbox next' new =>
      obtain rfl := Except.ok.inj (next.unique next')
      exact absurd old new
    | cycle _ next' => rw [Except.ok.inj (next.unique next')]

/-- After an end node nothing stops a run. -/
theorem Stops.not_atEnd {policy : RevisitPolicy} {log : Log} {e : RunError}
    (h : r.Stops policy log e) : ¬log.AtEnd := by
  rintro ⟨m, last, atEnd⟩
  have leads {x} (onward : r.Onward log.executed log.results x) : False := by
    simp [(onward.eq_nodeAfter last).1] at atEnd
  cases h with
  | blocked h => exact leads h
  | unsupported next | sandbox next | cycle _ next => exact leads next

/-- Where the graph leads back, nothing but the policy stops a run. -/
theorem Stops.not_returns {policy : RevisitPolicy} {log : Log} {e : RunError}
    (h : r.Stops policy log e) (complete : policy = .complete) : ¬r.Returns log := by
  rintro ⟨n, next, old⟩
  cases h with
  | blocked h => cases h.unique next
  | unsupported next' new | sandbox next' new =>
    obtain rfl := Except.ok.inj (next.unique next')
    exact new old
  | cycle fail => simp [complete] at fail

/-- **The three endings are exact**: a run that ends in a way ends so if and only if the way fits. -/
theorem Ends.exact {policy : RevisitPolicy} {log : Log} {ending : Ending}
    (h : r.Ends policy log ending) :
    (ending = .canceled ↔ true ∈ log.checks) ∧
      (ending = .completed ↔
        true ∉ log.checks ∧ (log.AtEnd ∨ policy = .complete ∧ r.Returns log)) ∧
      ∀ e, ending = .failed e ↔ true ∉ log.checks ∧
        ¬(log.AtEnd ∨ policy = .complete ∧ r.Returns log) ∧ r.Stops policy log e := by
  have goesOn {e} (stops : r.Stops policy log e) :
      ¬(log.AtEnd ∨ policy = .complete ∧ r.Returns log) := by
    rintro (atEnd | ⟨complete, back⟩)
    · exact stops.not_atEnd atEnd
    · exact stops.not_returns complete back
  cases h with
  | canceled seen => simp [seen]
  | atEnd unseen atEnd => simp [unseen, atEnd]
  | returned unseen complete back => simp [unseen, complete, back]
  | @failed e unseen stops =>
    refine ⟨by simp [unseen], by simp [goesOn stops], fun e' => ⟨?_, ?_⟩⟩
    · rintro ⟨⟩
      exact ⟨unseen, goesOn stops, stops⟩
    · rintro ⟨_, _, stops'⟩
      rw [stops.unique stops']

end RunRequest

end Automation
