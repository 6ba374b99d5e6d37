import Automation.Proofs.Graph.Selection
import Automation.Proofs.Walk.Run

/-!
# Runs of validated workflows

Validation looks at a graph, a run walks through it, and neither knows the other. The graphs that
validation lets through are characterized first, without the issues: those without errors
(`Workflow.isRunnable_iff`) and those without any issue (`Workflow.validate_eq_nil_iff`). Then every
way in which a walk can be blocked is traced back to what such a graph does not have
(`Workflow.Sound.blocked`, `Workflow.Faultless.not_blocked`).
-/

namespace Automation

/-! ## The graphs without errors -/

namespace Workflow

/-- A graph without errors: it has a start node, every edge leads from a node to a node, and the
type of every node is known. -/
structure Sound (w : Workflow) : Prop where
  starts : ∃ n ∈ w.nodes, n.isStart = true
  ends : ∀ e ∈ w.edges, (∃ n ∈ w.nodes, n.id = e.source) ∧ ∃ n ∈ w.nodes, n.id = e.target
  known : ∀ n ∈ w.nodes, n.isUnsupported = false

/-- A graph without any issue: it has one start node, a decision has an edge without a guard, any
other node has at most one edge, which is not guarded, and it has one unless it is an end. -/
structure Faultless (w : Workflow) : Prop extends Sound w where
  oneStart : (w.nodes.filter Node.isStart).length = 1
  default : ∀ n ∈ w.nodes, n.isDecision = true → ∃ e ∈ outgoing w.edges n.id, e.guard? = none
  plain : ∀ n ∈ w.nodes, n.isDecision = false →
    (∀ e ∈ outgoing w.edges n.id, e.guard? = none) ∧ (outgoing w.edges n.id).length ≤ 1
  goesOn : ∀ n ∈ w.nodes, n.isDecision = false → n.isEnd = false → outgoing w.edges n.id ≠ []

theorem startIssues_sound {nodes : List Node} :
    (∀ issue ∈ startIssues nodes, issue.severity ≠ .error) ↔ ∃ n ∈ nodes, n.isStart = true := by
  unfold startIssues
  dsimp only
  constructor
  · intro h
    by_contra none
    have no : (nodes.filter Node.isStart).length = 0 := by simpa using none
    rw [if_pos no] at h
    exact h .noStart (List.mem_singleton.mpr rfl) rfl
  · rintro ⟨n, hn, start⟩
    have some : (nodes.filter Node.isStart).length ≠ 0 := by simpa using ⟨n, hn, start⟩
    rw [if_neg some]
    split <;> simp [GraphIssue.severity]

theorem edgeIssues_sound {nodes : List Node} {e : Edge} :
    (∀ issue ∈ edgeIssues nodes e, issue.severity ≠ .error) ↔
      (∃ n ∈ nodes, n.id = e.source) ∧ ∃ n ∈ nodes, n.id = e.target := by
  simp only [edgeIssues, List.mem_map, List.mem_filter, List.mem_cons, List.not_mem_nil, or_false,
    Bool.not_eq_true', List.any_eq_false, beq_iff_eq]
  constructor
  · intro h
    -- An unknown end of the edge would be an error.
    have known (id : String) (hid : id = e.source ∨ id = e.target) : ∃ n ∈ nodes, n.id = id := by
      by_contra unknown
      exact h _ ⟨id, ⟨hid, fun n hn eq => unknown ⟨n, hn, eq⟩⟩, rfl⟩ rfl
    exact ⟨known _ (.inl rfl), known _ (.inr rfl)⟩
  · rintro ⟨⟨n, hn, source⟩, m, hm, target⟩ issue ⟨id, ⟨rfl | rfl, unknown⟩, rfl⟩
    · exact absurd source (unknown n hn)
    · exact absurd target (unknown m hm)

theorem nodeIssues_sound {edges : List Edge} {n : Node} :
    (∀ issue ∈ nodeIssues edges n, issue.severity ≠ .error) ↔ n.isUnsupported = false := by
  -- The issues of the edges are no errors.
  have warnings : ∀ issue ∈ (if n.isDecision then decisionIssues n.id (outgoing edges n.id)
      else followedIssues n (outgoing edges n.id)), issue.severity ≠ .error := by
    intro issue h
    unfold decisionIssues followedIssues at h
    grind [GraphIssue.severity]
  unfold nodeIssues
  constructor
  · intro h
    by_contra unknown
    rw [if_pos (by simpa using unknown)] at h
    exact h (.unsupportedType n.id) (by simp) rfl
  · intro known issue h
    exact warnings issue (by simpa [known] using h)

/-- **Validation finds no error exactly in the sound graphs.** -/
theorem isRunnable_iff {w : Workflow} : w.isRunnable = true ↔ w.Sound := by
  have parts : w.isRunnable = true ↔
      (∀ issue ∈ startIssues w.nodes, issue.severity ≠ .error) ∧
      (∀ e ∈ w.edges, ∀ issue ∈ edgeIssues w.nodes e, issue.severity ≠ .error) ∧
      ∀ n ∈ w.nodes, ∀ issue ∈ nodeIssues w.edges n, issue.severity ≠ .error := by
    simp only [isRunnable, validate, List.all_append, Bool.and_eq_true, List.all_eq_true,
      List.mem_flatMap, decide_eq_true_eq]
    grind
  rw [parts, startIssues_sound]
  simp only [edgeIssues_sound, nodeIssues_sound]
  exact ⟨fun ⟨starts, ends, known⟩ => ⟨starts, ends, known⟩, fun h => ⟨h.starts, h.ends, h.known⟩⟩

/-! ## The graphs without issues -/

theorem startIssues_eq_nil {nodes : List Node} :
    startIssues nodes = [] ↔ (nodes.filter Node.isStart).length = 1 := by
  unfold startIssues
  dsimp only
  split
  case isTrue no => simp [no]
  case isFalse some => split <;> simp_all

theorem edgeIssues_eq_nil {nodes : List Node} {e : Edge} :
    edgeIssues nodes e = [] ↔
      (∃ n ∈ nodes, n.id = e.source) ∧ ∃ n ∈ nodes, n.id = e.target := by
  simp [edgeIssues, List.filter_eq_nil_iff]

theorem nodeIssues_eq_nil {edges : List Edge} {n : Node} :
    nodeIssues edges n = [] ↔ n.isUnsupported = false ∧
      (n.isDecision = true → ∃ e ∈ outgoing edges n.id, e.guard? = none) ∧
      (n.isDecision = false → (∀ e ∈ outgoing edges n.id, e.guard? = none) ∧
        (outgoing edges n.id).length ≤ 1) ∧
      (n.isDecision = false → n.isEnd = false → outgoing edges n.id ≠ []) := by
  unfold nodeIssues decisionIssues followedIssues
  cases n.isUnsupported <;> cases n.isDecision <;> cases n.isEnd <;> simp
  grind

/-- **Validation finds nothing exactly in the faultless graphs.** -/
theorem validate_eq_nil_iff {w : Workflow} : w.validate = [] ↔ w.Faultless := by
  simp only [validate, List.append_eq_nil_iff, List.flatMap_eq_nil_iff, startIssues_eq_nil,
    edgeIssues_eq_nil, nodeIssues_eq_nil]
  constructor
  · rintro ⟨⟨one, ends⟩, nodes⟩
    have starts : ∃ n ∈ w.nodes, n.isStart = true := by
      obtain ⟨n, only⟩ := List.length_eq_one_iff.mp one
      exact ⟨n, List.mem_filter.mp (only ▸ List.mem_singleton.mpr rfl)⟩
    exact ⟨⟨starts, ends, fun n hn => (nodes n hn).1⟩, one, fun n hn => (nodes n hn).2.1,
      fun n hn => (nodes n hn).2.2.1, fun n hn => (nodes n hn).2.2.2⟩
  · intro h
    exact ⟨⟨h.oneStart, h.ends⟩, fun n hn =>
      ⟨h.known n hn, h.default n hn, h.plain n hn, h.goesOn n hn⟩⟩

end Workflow

/-! ## What blocks a walk -/

/-- The edge to follow is an edge of the graph. -/
theorem RunRequest.Follows.mem [Regex.Library] {r : RunRequest} {results : Results} {m : Node}
    {e : Edge} (h : r.Follows results m e) : e ∈ r.edges := by
  unfold Follows at h
  split at h
  · rcases Edge.mem_of_chooseBy h with left | none
    · exact (List.mem_filter.mp left).1
    · cases none
  · exact List.mem_of_find?_eq_some h

namespace Workflow

variable {w : Workflow}

/-- A run of the workflow: what the request asks for, in the graph of the workflow. -/
def request (w : Workflow) (r : RunRequest) : RunRequest :=
  { r with nodes := w.nodes, edges := w.edges }

variable [Regex.Library]

/-- A sound graph blocks a walk only after a node, where no edge leads on. -/
theorem Sound.blocked (h : w.Sound) {r : RunRequest} {executed : List Node} {results : Results}
    {e : RunError} (blocked : (w.request r).Onward executed results (.error e)) :
    (∃ n, e = .noOutgoingEdge n) ∨ ∃ n, e = .unmatchedDecision n := by
  cases blocked with
  | noStart _ missing =>
    obtain ⟨n, hn, start⟩ := h.starts
    exact absurd start (List.find?_eq_none.mp missing n hn)
  | deadEnd => exact .inl ⟨_, rfl⟩
  | unmatched => exact .inr ⟨_, rfl⟩
  | @unresolved _ e _ _ follows missing =>
    obtain ⟨n, hn, target⟩ := (h.ends e follows.mem).2
    exact absurd (by simpa using target) (List.find?_eq_none.mp missing n hn)

/-- A faultless graph does not block a walk. -/
theorem Faultless.not_blocked (h : w.Faultless) {r : RunRequest} {executed : List Node}
    {results : Results} {e : RunError} (nodes : ∀ n ∈ executed, n ∈ w.nodes) :
    ¬(w.request r).Onward executed results (.error e) := by
  intro blocked
  have sound := h.toSound.blocked blocked
  -- Left are the two ways in which no edge leads on.
  cases blocked with
  | noStart | unresolved => simp at sound
  | @deadEnd m last goesOn plain missing =>
    refine h.goesOn m (nodes m (List.mem_of_getLast? last)) plain goesOn ?_
    exact List.filter_eq_nil_iff.mpr fun e he => by simpa using missing e he
  | @unmatched m last goesOn decision missing =>
    obtain ⟨e, he, free⟩ := h.default m (nodes m (List.mem_of_getLast? last)) decision
    obtain ⟨e', chosen⟩ := Edge.choose?_of_default (Results.context (w.request r).fields results) he
      free
    exact absurd (chosen.symm.trans missing) (by simp)

end Workflow

/-! ## The errors of a walk -/

section

variable [Regex.Library] {w : Workflow} {r : RunRequest} {policy : RevisitPolicy} {log : Log}
  {e : RunError}

/-- A walk through a sound graph starts, finds the target of every edge and knows every node. -/
theorem Workflow.Sound.stops (h : w.Sound) (stops : (w.request r).Stops policy log e) :
    e ≠ .noStartNode ∧ (∀ source target, e ≠ .unresolvedTarget source target) ∧
      ∀ n, e ≠ .unsupportedNodeType n := by
  cases stops with
  | blocked blocked => rcases h.blocked blocked with ⟨n, rfl⟩ | ⟨n, rfl⟩ <;> simp
  | unsupported next new unknown => simp [h.known _ next.mem] at unknown
  | sandbox | cycle => simp

/-- A walk through a faultless graph fails only by a script or where the graph leads back. -/
theorem Workflow.Faultless.stops (h : w.Faultless) (path : (w.request r).Path log)
    (stops : (w.request r).Stops policy log e) :
    (∃ n text, e = .scriptSandbox n text) ∨ policy = .fail ∧ ∃ n, e = .cycleDetected n := by
  cases stops with
  | blocked blocked =>
    exact absurd blocked (h.not_blocked fun n hn => RunRequest.mem_of_executed path.visited hn)
  | unsupported next new unknown => simp [h.known _ next.mem] at unknown
  | sandbox => exact .inl ⟨_, _, rfl⟩
  | cycle fail => exact .inr ⟨fail, _, rfl⟩

/-- **Validated workflows run.** For every workflow, and every request, policy and outside of its run:
if validation finds no error, the run does not fail for want of a start node, of the target of an edge
or of a type that is known. If it finds no issue at all, the run fails only by a script or by a cycle,
under the policy that lets it complete only by a script, and if it is completed without coming back
to a node, it ends at an end node. -/
theorem run_of_validated (o : Outside σ) (policy : RevisitPolicy) (wf : Workflow) (r : RunRequest)
    (w : σ) :
    let run := wf.request r
    let log := ((run.run o.logged policy).run (w, .empty)).2.2
    ∃ walked, ((run.run o.toServices policy).run w).1 = run.outcome walked ∧
      Prescribed run policy log walked ∧
      ((∀ issue ∈ wf.validate, issue.severity ≠ .error) →
        walked.ending ≠ .failed .noStartNode ∧
        (∀ source target, walked.ending ≠ .failed (.unresolvedTarget source target)) ∧
        ∀ n, walked.ending ≠ .failed (.unsupportedNodeType n)) ∧
      (wf.validate = [] →
        (∀ e, walked.ending = .failed e →
          (∃ n, e = .cycleDetected n) ∨ ∃ n text, e = .scriptSandbox n text) ∧
        (policy = .complete →
          ∀ e, walked.ending = .failed e → ∃ n text, e = .scriptSandbox n text) ∧
        (walked.ending = .completed → ¬run.Returns log → log.AtEnd)) := by
  intro run log
  obtain ⟨w', outcome, same⟩ := run_of_walk o policy run w
  have prescribed : Prescribed run policy log _ := same ▸ walk_prescribed o policy run w'
  have stops {e : RunError} (h : _ = Ending.failed e) := ((prescribed.failed e).mp h).2.2
  refine ⟨_, outcome, prescribed, fun errors => ?_, fun issues => ?_⟩
  · have sound : wf.Sound := Workflow.isRunnable_iff.mp (by simpa [Workflow.isRunnable] using errors)
    exact ⟨fun h => (sound.stops (stops h)).1 rfl,
      fun source target h => (sound.stops (stops h)).2.1 source target rfl,
      fun n h => (sound.stops (stops h)).2.2 n rfl⟩
  · have faultless : wf.Faultless := Workflow.validate_eq_nil_iff.mp issues
    refine ⟨fun e h => ?_, fun complete e h => ?_, fun h noReturn => ?_⟩
    · rcases faultless.stops prescribed.path (stops h) with script | ⟨_, cycle⟩
      · exact .inr script
      · exact .inl cycle
    · rcases faultless.stops prescribed.path (stops h) with script | ⟨fail, _⟩
      · exact script
      · rw [complete] at fail
        cases fail
    · rcases (prescribed.completed.mp h).2 with atEnd | ⟨_, back⟩
      · exact atEnd
      · exact absurd back noReturn

end

end Automation
