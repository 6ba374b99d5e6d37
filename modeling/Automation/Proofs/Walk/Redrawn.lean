import Automation.Proofs.Walk.Validated
import Automation.Regex.Reader
import Mathlib.Logic.Relation

/-!
# Graphs drawn another way

A run does not tell apart graphs that lead it the same way as far as edges reach from the start
(`run_alike`). So a graph can be redrawn: its nodes put into another order, its edges too, as long
as those of one node keep theirs; nodes and edges left out that no edge reaches; and at a node that
is no decision the conditions, and all edges but the first one. None of it changes a run
(`run_redrawn`).

The two walks go on step for step, but each counts the room that its own graph leaves. A room that
is enough is as good as any other (`walkFrom_alike`).
-/

namespace Automation

namespace RunRequest

/-! ## The nodes that edges reach -/

/-- A node that edges lead to from a start node. -/
inductive Reaches (r : RunRequest) : Node → Prop where
  | start {n} (mem : n ∈ r.nodes) (start : n.isStart = true) : Reaches r n
  | edge {m e n} (reached : Reaches r m) (leaves : e ∈ outgoing r.edges m.id) (mem : n ∈ r.nodes)
    (target : n.id = e.target) : Reaches r n

theorem Reaches.mem {r : RunRequest} {n : Node} (h : r.Reaches n) : n ∈ r.nodes := by
  cases h <;> assumption

theorem Reaches.start? {r : RunRequest} {n : Node} (h : r.start? = some n) : r.Reaches n :=
  .start (List.mem_of_find?_eq_some h) (by simpa using List.find?_some h)

variable [Regex.Library] {r : RunRequest} {m n : Node} {results : Results}

/-- The edge that the walk takes leaves the node. -/
theorem mem_outgoing_of_edgeAfter {e : Edge} (h : r.edgeAfter m results = .ok e) :
    e ∈ outgoing r.edges m.id := by
  unfold edgeAfter at h
  split at h
  · cases chosen : Edge.choose? (outgoing r.edges m.id) (Results.context r.fields results) with
    | none => simp [chosen] at h
    | some e' =>
      obtain rfl : e' = e := by simpa [chosen] using h
      exact (Edge.mem_of_chooseBy chosen).resolve_right (by simp)
  · cases first : (outgoing r.edges m.id).head? with
    | none => simp [first] at h
    | some e' =>
      obtain rfl : e' = e := by simpa [first] using h
      exact List.mem_of_head? first

/-- A walk that goes on takes an edge, to a node that is there. -/
theorem exists_edge_of_nodeAfter (h : r.nodeAfter m results = .ok n) :
    ∃ e, r.edgeAfter m results = .ok e ∧ n ∈ r.nodes ∧ n.id = e.target := by
  unfold nodeAfter at h
  cases edge : r.edgeAfter m results with
  | error e => simp [edge] at h
  | ok e =>
    cases target : r.node? e.target with
    | none => simp [edge, target] at h
    | some n' =>
      obtain rfl : n' = n := by simpa [edge, target] using h
      exact ⟨e, rfl, List.mem_of_find?_eq_some target, by simpa using List.find?_some target⟩

theorem mem_of_nodeAfter (h : r.nodeAfter m results = .ok n) : n ∈ r.nodes := by
  obtain ⟨_, -, mem, -⟩ := exists_edge_of_nodeAfter h
  exact mem

/-- The walk goes where edges reach. -/
theorem Reaches.nodeAfter (h : r.Reaches m) (next : r.nodeAfter m results = .ok n) :
    r.Reaches n := by
  obtain ⟨e, edge, mem, target⟩ := exists_edge_of_nodeAfter next
  exact .edge h (mem_outgoing_of_edgeAfter edge) mem target

end RunRequest

/-! ## Graphs that lead alike -/

/-- Two requests whose graphs lead a run the same way, as far as edges reach in the first one. -/
structure LeadsAlike [Regex.Library] (r r' : RunRequest) : Prop where
  executionId : r'.executionId = r.executionId
  workflowId : r'.workflowId = r.workflowId
  fields : r'.fields = r.fields
  start : r'.start? = r.start?
  after : ∀ n, r.Reaches n → ∀ results, r'.nodeAfter n results = r.nodeAfter n results

/-- A walk is about to come to a node after some results: both graphs know what was visited, and
edges reach the node. -/
structure Abreast (r r' : RunRequest) (n : Node) (results : Results) : Prop where
  reached : r.Reaches n
  mem : n ∈ r'.nodes
  distinct : (results.map Prod.fst).Nodup
  known : results.map Prod.fst ⊆ r.nodes.map Node.id
  known' : results.map Prod.fst ⊆ r'.nodes.map Node.id

namespace Abreast

variable {r r' : RunRequest} {n next : Node} {results : Results}

/-- There is room for a new node in both graphs. -/
theorem room_of_new (h : Abreast r r' n results) (new : n.id ∉ results.map Prod.fst) :
    results.length < r.nodes.length ∧ results.length < r'.nodes.length := by
  have distinct : (n.id :: results.map Prod.fst).Nodup := List.nodup_cons.mpr ⟨new, h.distinct⟩
  have room (nodes : List Node) (mem : n ∈ nodes)
      (known : results.map Prod.fst ⊆ nodes.map Node.id) : results.length < nodes.length := by
    have within : n.id :: results.map Prod.fst ⊆ nodes.map Node.id :=
      List.cons_subset.mpr ⟨List.mem_map_of_mem mem, known⟩
    simpa [Nat.succ_le_iff] using (distinct.subperm within).length_le
  exact ⟨room _ h.reached.mem h.known, room _ h.mem h.known'⟩

/-- The walk comes to the next node. -/
theorem step (h : Abreast r r' n results) (new : n.id ∉ results.map Prod.fst) (result : NodeResult)
    (reached : r.Reaches next) (mem : next ∈ r'.nodes) :
    Abreast r r' next (results ++ [(n.id, result)]) where
  reached := reached
  mem := mem
  distinct := by
    rw [List.map_append]
    exact h.distinct.append (List.nodup_singleton _) (List.disjoint_singleton.mpr new)
  known := by
    rw [List.map_append]
    exact List.append_subset.mpr ⟨h.known, by simpa using ⟨n, h.reached.mem, rfl⟩⟩
  known' := by
    rw [List.map_append]
    exact List.append_subset.mpr ⟨h.known', by simpa using ⟨n, h.mem, rfl⟩⟩

end Abreast

section

variable {m : Type → Type} [Monad m] [LawfulMonad m] (services : Services m)
  (policy : RevisitPolicy) {r r' : RunRequest}

/-- What goes on after a visit sees the results with the one of the node, or an error. -/
theorem visit_bind_congr {n : Node} {results : Results} {f g : Except RunError Results → m α}
    (error : ∀ e, f (.error e) = g (.error e))
    (ok : ∀ result, f (.ok (Results.put n.id result results)) =
      g (.ok (Results.put n.id result results))) :
    visit services r n results >>= f = visit services r n results >>= g := by
  unfold visit
  simp only [bind_assoc]
  refine bind_congr fun _ => bind_congr fun answer => ?_
  cases answer with
  | error e => simp only [pure_bind, error]
  | ok result => simp only [bind_assoc, pure_bind, ok]

variable [Regex.Library]

omit [LawfulMonad m] in
/-- Where a walk comes back to a node it needs neither room nor the graph. -/
theorem walkFrom_of_old {n : Node} {results : Results} (old : n.id ∈ results.map Prod.fst)
    (room room' : Nat) :
    walkFrom services policy r' room' n results = walkFrom services policy r room n results := by
  have old := Results.has_iff.mpr old
  cases room <;> cases room' <;> simp only [walkFrom, arrive, old, if_true]

omit [LawfulMonad m] in
theorem visit_alike (h : LeadsAlike r r') (n : Node) (results : Results) :
    visit services r' n results = visit services r n results := by
  simp only [visit, h.executionId, h.fields]

/-- **Graphs that lead alike are walked alike**, with any room that is enough. By induction on the
room in the first one. -/
theorem walkFrom_alike (alike : LeadsAlike r r') (room room' : Nat) {n : Node} {results : Results}
    (h : Abreast r r' n results) (enough : r.nodes.length ≤ room + results.length)
    (enough' : r'.nodes.length ≤ room' + results.length) :
    walkFrom services policy r' room' n results = walkFrom services policy r room n results := by
  induction room generalizing room' n results with
  | zero =>
    by_cases new : n.id ∈ results.map Prod.fst
    · exact walkFrom_of_old services policy new 0 room'
    · have := (h.room_of_new new).1
      omega
  | succ room ih =>
    by_cases new : n.id ∈ results.map Prod.fst
    · exact walkFrom_of_old services policy new (room + 1) room'
    -- There is room for the node in the other graph, too.
    obtain ⟨room', rfl⟩ : ∃ k, room' = k + 1 := by
      have := (h.room_of_new new).2
      exact ⟨room' - 1, by omega⟩
    simp only [walkFrom, visit_alike services alike]
    refine congrArg (arrive services policy n results) (funext fun _ => ?_)
    refine visit_bind_congr services (fun _ => rfl) fun result => ?_
    rw [Results.put_of_new new]
    simp only [alike.after n h.reached]
    split
    · rfl
    · cases after : r.nodeAfter n (results ++ [(n.id, result)]) with
      | error e => rfl
      | ok next =>
        have mem : next ∈ r'.nodes :=
          RunRequest.mem_of_nodeAfter ((alike.after n h.reached _).trans after)
        refine ih room' (h.step new result (h.reached.nodeAfter after) mem) ?_ ?_ <;>
          · rw [List.length_append, List.length_singleton]
            omega

/-- **Runs do not tell graphs apart that lead alike.** -/
theorem run_alike (h : LeadsAlike r r') : r'.run services policy = r.run services policy := by
  have walks : walk services policy r' = walk services policy r := by
    unfold walk
    rw [h.start]
    cases first : r.start? with
    | none => rfl
    | some n =>
      refine walkFrom_alike services policy h _ _ ⟨.start? first, ?_, List.nodup_nil, ?_, ?_⟩ ?_ ?_
      · exact List.mem_of_find?_eq_some (h.start.trans first)
      all_goals simp
  unfold RunRequest.run RunRequest.outcome
  rw [walks, h.executionId, h.workflowId]

end

/-! ## Redrawing -/

/-- A graph whose nodes have ids of their own, one of them a start. -/
structure RunRequest.WellDrawn (r : RunRequest) : Prop where
  distinct : (r.nodes.map Node.id).Nodup
  oneStart : (r.nodes.filter Node.isStart).length = 1

/-- An edge as it is drawn instead of another one: the same, or without its condition, if that
leaves a node that is no decision. -/
def RunRequest.Unguarded (r : RunRequest) (e e' : Edge) : Prop :=
  e' = e ∨
    (∃ n ∈ r.nodes, n.id = e.source ∧ n.isDecision = false) ∧ e' = { e with condition := none }

/-- One way to draw the graph of a request differently. -/
inductive RunRequest.Redrawn (r : RunRequest) : RunRequest → Prop where
  /-- The nodes are put into another order. -/
  | nodes {nodes} (perm : r.nodes.Perm nodes) : Redrawn r { r with nodes }
  /-- The edges are put into another order, but those with the same source keep theirs. -/
  | edges {edges} (perm : r.edges.Perm edges)
    (order : ∀ id, outgoing edges id = outgoing r.edges id) : Redrawn r { r with edges }
  /-- Nodes are left out that edges do not reach, and edges that do not leave nodes that are
  reached. -/
  | unreached {nodes edges} (nodesLeft : nodes.Sublist r.nodes) (edgesLeft : edges.Sublist r.edges)
    (kept : ∀ n, r.Reaches n → n ∈ nodes ∧ outgoing edges n.id = outgoing r.edges n.id) :
    Redrawn r { r with nodes, edges }
  /-- Conditions are erased where no decision reads them. -/
  | unguarded {edges} (erased : List.Forall₂ r.Unguarded r.edges edges) : Redrawn r { r with edges }
  /-- Edges are left out that leave a node which is no decision, but not the first one. -/
  | unfollowed {edges} {n : Node} (mem : n ∈ r.nodes) (plain : n.isDecision = false)
    (edgesLeft : edges.Sublist r.edges)
    (first : (outgoing edges n.id).head? = (outgoing r.edges n.id).head?)
    (others : ∀ id, id ≠ n.id → outgoing edges id = outgoing r.edges id) :
    Redrawn r { r with edges }

namespace RunRequest

variable {r r' : RunRequest} {n m : Node}

namespace WellDrawn

theorem eq_of_id (h : r.WellDrawn) (hn : n ∈ r.nodes) (hm : m ∈ r.nodes) (same : n.id = m.id) :
    n = m :=
  List.inj_on_of_nodup_map h.distinct hn hm same

theorem node?_iff (h : r.WellDrawn) (id : String) :
    r.node? id = some n ↔ n ∈ r.nodes ∧ n.id = id := by
  refine ⟨fun found => ⟨List.mem_of_find?_eq_some found, by simpa using List.find?_some found⟩, ?_⟩
  rintro ⟨mem, rfl⟩
  cases found : r.node? n.id with
  | none => exact absurd (List.find?_eq_none.mp found n mem) (by simp)
  | some n' =>
    have same : n'.id = n.id := by simpa using List.find?_some found
    rw [h.eq_of_id (List.mem_of_find?_eq_some found) mem same]

theorem start?_iff (h : r.WellDrawn) : r.start? = some n ↔ n ∈ r.nodes ∧ n.isStart = true := by
  obtain ⟨only, starts⟩ := List.length_eq_one_iff.mp h.oneStart
  rw [start?, ← List.head?_filter, starts, ← List.mem_filter, starts]
  simp [eq_comm]

end WellDrawn

/-- However it is redrawn, a graph that is well drawn remains so. -/
theorem Redrawn.wellDrawn (h : r.Redrawn r') (drawn : r.WellDrawn) : r'.WellDrawn := by
  cases h with
  | nodes perm =>
    exact ⟨(perm.map _).nodup_iff.mp drawn.distinct, (perm.filter _).length_eq ▸ drawn.oneStart⟩
  | @unreached nodes edges nodesLeft _ kept =>
    refine ⟨drawn.distinct.sublist (nodesLeft.map _), ?_⟩
    obtain ⟨only, starts⟩ := List.length_eq_one_iff.mp drawn.oneStart
    have mem : only ∈ r.nodes.filter Node.isStart := starts ▸ List.mem_singleton.mpr rfl
    obtain ⟨inside, start⟩ := List.mem_filter.mp mem
    have most := (nodesLeft.filter Node.isStart).length_le
    have least := List.length_pos_of_mem
      (List.mem_filter.mpr ⟨(kept only (.start inside start)).1, start⟩)
    have one := drawn.oneStart
    show (nodes.filter Node.isStart).length = 1
    omega
  | edges | unguarded | unfollowed => exact ⟨drawn.distinct, drawn.oneStart⟩

/-! ## What a walk sees of a redrawn graph -/

/-- The edges of a node without some conditions have the targets that they had. -/
theorem outgoing_unguarded {edges edges' : List Edge} (h : List.Forall₂ r.Unguarded edges edges')
    (id : String) :
    (outgoing edges' id).map Edge.target = (outgoing edges id).map Edge.target := by
  induction h with
  | nil => rfl
  | @cons e e' edges edges' erased _ ih =>
    have same : e'.source = e.source ∧ e'.target = e.target := by
      obtain rfl | ⟨-, rfl⟩ := erased <;> exact ⟨rfl, rfl⟩
    simp only [outgoing, List.filter_cons, same.1] at ih ⊢
    split
    · simp only [List.map_cons, same.2, ih]
    · exact ih

/-- The edges of a decision keep their conditions. -/
theorem outgoing_unguarded_of_decision {edges edges' : List Edge} (drawn : r.WellDrawn)
    (h : List.Forall₂ r.Unguarded edges edges') (mem : m ∈ r.nodes)
    (decision : m.isDecision = true) : outgoing edges' m.id = outgoing edges m.id := by
  induction h with
  | nil => rfl
  | @cons e e' edges edges' erased _ ih =>
    have same : e' = e ∨ e.source ≠ m.id ∧ e'.source ≠ m.id := by
      obtain same | ⟨⟨n, inside, source, plain⟩, rfl⟩ := erased
      · exact .inl same
      · have other : e.source ≠ m.id := by
          intro leaves
          rw [drawn.eq_of_id inside mem (source.trans leaves), decision] at plain
          cases plain
        exact .inr ⟨other, other⟩
    simp only [outgoing, List.filter_cons] at ih ⊢
    obtain rfl | ⟨other, other'⟩ := same
    · rw [ih]
    · simp only [other, other', decide_false, Bool.false_eq_true, if_false, ih]

variable [Regex.Library]

/-- The targets of the edges are all that matters of them. -/
theorem nodeAfter_congr {results : Results}
    (targets : (r'.edgeAfter m results).map Edge.target = (r.edgeAfter m results).map Edge.target)
    (nodes : ∀ e ∈ outgoing r.edges m.id, r'.node? e.target = r.node? e.target) :
    r'.nodeAfter m results = r.nodeAfter m results := by
  unfold nodeAfter
  cases edge : r.edgeAfter m results with
  | error e =>
    cases edge' : r'.edgeAfter m results with
    | error e' =>
      obtain rfl : e' = e := by simpa [edge, edge', Except.map] using targets
      rfl
    | ok e' => simp [edge, edge', Except.map] at targets
  | ok e =>
    cases edge' : r'.edgeAfter m results with
    | error e' => simp [edge, edge', Except.map] at targets
    | ok e' =>
      have same : e'.target = e.target := by simpa [edge, edge', Except.map] using targets
      simp only [same, nodes e (mem_outgoing_of_edgeAfter edge)]

/-- After a node that is no decision only the target of the first edge matters. -/
theorem edgeAfter_target_of_plain {results : Results} (plain : m.isDecision = false)
    (first : (outgoing r'.edges m.id).head?.map Edge.target =
      (outgoing r.edges m.id).head?.map Edge.target) :
    (r'.edgeAfter m results).map Edge.target = (r.edgeAfter m results).map Edge.target := by
  unfold edgeAfter
  rw [if_neg (by simp [plain]), if_neg (by simp [plain])]
  cases edge : (outgoing r.edges m.id).head? <;> cases edge' : (outgoing r'.edges m.id).head? <;>
    simp_all [Except.map]

/-- A graph with all that edges reach in another one, and nothing else but nodes of it, leads alike,
if the edges after the nodes that are reached have the same targets. -/
theorem WellDrawn.leadsAlike (drawn : r.WellDrawn) (drawn' : r'.WellDrawn)
    (executionId : r'.executionId = r.executionId) (workflowId : r'.workflowId = r.workflowId)
    (fields : r'.fields = r.fields) (within : r'.nodes ⊆ r.nodes)
    (kept : ∀ n, r.Reaches n → n ∈ r'.nodes)
    (targets : ∀ m, r.Reaches m → ∀ results,
      (r'.edgeAfter m results).map Edge.target = (r.edgeAfter m results).map Edge.target) :
    LeadsAlike r r' where
  executionId := executionId
  workflowId := workflowId
  fields := fields
  start := by
    refine Option.ext fun n => ?_
    rw [drawn'.start?_iff, drawn.start?_iff]
    exact ⟨fun h => ⟨within h.1, h.2⟩, fun h => ⟨kept n (.start h.1 h.2), h.2⟩⟩
  after m reached results := by
    refine nodeAfter_congr (targets m reached results) fun e leaves => Option.ext fun n => ?_
    rw [drawn'.node?_iff, drawn.node?_iff]
    exact ⟨fun h => ⟨within h.1, h.2⟩, fun h => ⟨kept n (.edge reached leaves h.1 h.2), h.2⟩⟩

/-- A redrawn graph leads alike. -/
theorem Redrawn.leadsAlike (h : r.Redrawn r') (drawn : r.WellDrawn) : LeadsAlike r r' := by
  have drawn' := h.wellDrawn drawn
  -- The edges after a node are the same, where those that leave it are.
  have same (edges : List Edge) (nodes : List Node) (m : Node) (results : Results)
      (leave : outgoing edges m.id = outgoing r.edges m.id) :
      (({ r with nodes, edges } : RunRequest).edgeAfter m results).map Edge.target =
        (r.edgeAfter m results).map Edge.target := by
    simp only [edgeAfter, leave, fields]
  cases h with
  | nodes perm =>
    exact drawn.leadsAlike drawn' rfl rfl rfl perm.symm.subset (fun n h => perm.subset h.mem)
      fun m _ results => same _ _ m results rfl
  | edges perm order =>
    exact drawn.leadsAlike drawn' rfl rfl rfl (List.Subset.refl _) (fun n h => h.mem)
      fun m _ results => same _ _ m results (order m.id)
  | unreached nodesLeft edgesLeft kept =>
    exact drawn.leadsAlike drawn' rfl rfl rfl nodesLeft.subset (fun n h => (kept n h).1)
      fun m h results => same _ _ m results (kept m h).2
  | unguarded erased =>
    refine drawn.leadsAlike drawn' rfl rfl rfl (List.Subset.refl _) (fun n h => h.mem)
      fun m h results => ?_
    cases decision : m.isDecision with
    | true => exact same _ _ m results (outgoing_unguarded_of_decision drawn erased h.mem decision)
    | false =>
      refine edgeAfter_target_of_plain decision ?_
      simp only [← List.head?_map, outgoing_unguarded erased]
  | @unfollowed edges n mem plain _ first others =>
    refine drawn.leadsAlike drawn' rfl rfl rfl (List.Subset.refl _) (fun n h => h.mem)
      fun m h results => ?_
    by_cases here : m.id = n.id
    · obtain rfl := drawn.eq_of_id h.mem mem here
      exact edgeAfter_target_of_plain plain (congrArg _ first)
    · exact same _ _ m results (others m.id here)

end RunRequest

/-- **A redrawn graph is run alike.** For every request whose nodes have ids of their own, one of
them a start, for every policy and all services, whatever they answer: however often the graph is
redrawn, the run is the same computation. So it asks and tells the same, and its outcome is the
same. -/
theorem run_redrawn [Regex.Library] {m : Type → Type} [Monad m] [LawfulMonad m]
    (services : Services m) (policy : RevisitPolicy) {r r' : RunRequest} (drawn : r.WellDrawn)
    (redrawn : Relation.ReflTransGen RunRequest.Redrawn r r') :
    r'.run services policy = r.run services policy := by
  have both : r'.WellDrawn ∧ r'.run services policy = r.run services policy := by
    induction redrawn with
    | refl => exact ⟨drawn, rfl⟩
    | tail _ step ih =>
      exact ⟨step.wellDrawn ih.1, (run_alike services policy (step.leadsAlike ih.1)).trans ih.2⟩
  exact both.2

namespace Sketch

/-- A start, an end and a node aside. -/
def start : Node := ⟨"s", "", none, none, .start⟩
def stop : Node := ⟨"f", "", none, none, .finish⟩
def aside : Node := ⟨"u", "", none, none, .finish⟩

/-- From the start to the end, from the start aside, and back. -/
def onward : Edge := ⟨"a", "s", "f", none, none⟩
def away : Edge := ⟨"b", "s", "u", none, none⟩
def back : Edge := ⟨"c", "f", "s", none, none⟩

/-- A request to run a graph of these. -/
def request (nodes : List Node) (edges : List Edge) : RunRequest := ⟨"w", "x", nodes, edges, none⟩

/-- A guard where no decision reads it, and a second edge that is not followed. -/
def draft : RunRequest :=
  request [start, stop, aside] [{ onward with condition := some "guard" }, away, back]

/-- The draft without what does not matter, from back to front. -/
def fairCopy : RunRequest := request [stop, start] [back, onward]

theorem draft_wellDrawn : draft.WellDrawn := ⟨by simp [draft, request, start, stop, aside], rfl⟩

/-- Without the edge that is not followed nothing leads aside. -/
theorem mem_of_reaches {n : Node} (h : (request [start, stop, aside] [onward, back]).Reaches n) :
    n ∈ [start, stop] := by
  cases h with
  | start mem begins =>
    simp only [request, List.mem_cons, List.not_mem_nil, or_false] at mem
    rcases mem with rfl | rfl | rfl
    · simp
    · simp
    · cases begins
  | edge _ leaves mem target =>
    have edge : _ ∈ [onward, back] := (List.mem_filter.mp leaves).1
    simp only [request, List.mem_cons, List.not_mem_nil, or_false] at mem edge
    rcases mem with rfl | rfl | rfl
    · simp
    · simp
    · rcases edge with rfl | rfl <;> simp [aside, onward, back] at target

theorem redrawn : Relation.ReflTransGen RunRequest.Redrawn draft fairCopy := by
  have unguarded : draft.Redrawn (request [start, stop, aside] [onward, away, back]) :=
    .unguarded (.cons (.inr ⟨⟨start, by simp [draft, request], rfl, rfl⟩, rfl⟩)
      (.cons (.inl rfl) (.cons (.inl rfl) .nil)))
  have unfollowed : (request [start, stop, aside] [onward, away, back]).Redrawn
      (request [start, stop, aside] [onward, back]) :=
    .unfollowed (n := start) (by simp [request]) rfl (by simp [request]) rfl fun id other => by
      have other : ¬"s" = id := fun same => other same.symm
      simp [outgoing, request, onward, away, back, other]
  have unreached : (request [start, stop, aside] [onward, back]).Redrawn
      (request [start, stop] [onward, back]) :=
    .unreached (by simp [request]) (List.Sublist.refl _) fun n h => ⟨mem_of_reaches h, rfl⟩
  have nodes : (request [start, stop] [onward, back]).Redrawn
      (request [stop, start] [onward, back]) := .nodes (List.Perm.swap _ _ _)
  have edges : (request [stop, start] [onward, back]).Redrawn fairCopy :=
    .edges (List.Perm.swap _ _ _) fun id => by
      by_cases h : "s" = id
      · subst h; rfl
      · simp [outgoing, request, onward, back, h, List.filter_cons]
  exact .head unguarded (.head unfollowed (.head unreached (.head nodes (.single edges))))

/-- The draft and the fair copy are run alike. -/
theorem run_fairCopy : draft.WellDrawn ∧ Relation.ReflTransGen RunRequest.Redrawn draft fairCopy ∧
    fairCopy.run Script.outside.toServices .fail = draft.run Script.outside.toServices .fail :=
  ⟨draft_wellDrawn, redrawn, run_redrawn Script.outside.toServices .fail draft_wellDrawn redrawn⟩

end Sketch

end Automation
