import Automation.Proofs.Walk.Run

/-!
# Runs under the two policies

The policies differ in nothing but the ending of a walk that comes back to a node (`run_policies`).
Up to there the walks are one computation, so that they ask the same, are answered the same, and are
told apart by their verdict alone (`Verdict`).
-/

namespace Automation

/-- What the policies make of one and the same walk: the same, or the one of them reports the cycle
where the other one is content. -/
inductive Verdict : Walked → Walked → Prop where
  | same (walked : Walked) : Verdict walked walked
  | cycle (id : String) (results : Results) :
    Verdict ⟨.failed (.cycleDetected id), results⟩ ⟨.completed, results⟩

/-- Two walks that leave the same behind them, and differ in their verdicts at most. -/
def DifferInVerdict (x y : StateM σ Walked) : Prop :=
  ∀ w, (y.run w).2 = (x.run w).2 ∧ Verdict (x.run w).1 (y.run w).1

namespace DifferInVerdict

theorem refl (x : StateM σ Walked) : DifferInVerdict x x := fun _ => ⟨rfl, .same _⟩

/-- Walks after one and the same computation. -/
theorem andThen (x : StateM σ α) {f g : α → StateM σ Walked}
    (h : ∀ a, DifferInVerdict (f a) (g a)) : DifferInVerdict (x >>= f) (x >>= g) := fun w =>
  h (x.run w).1 (x.run w).2

end DifferInVerdict

section

variable (services : Services (StateM σ)) (r : RunRequest)

theorem arrive_policies (n : Node) (results : Results) {x y : Unit → StateM σ Walked}
    (on : DifferInVerdict (x ()) (y ())) :
    DifferInVerdict (arrive services .fail n results x)
      (arrive services .complete n results y) := by
  refine .andThen _ fun canceled => ?_
  cases canceled with
  | true => exact .refl _
  | false =>
    cases Results.has n.id results with
    | true => exact fun w => ⟨rfl, .cycle n.id results⟩
    | false => exact on

variable [Regex.Library]

/-- **The policies walk alike.** By induction on the room that is left: each round is the same
computation for both, up to one that comes back to a node. -/
theorem walkFrom_policies (room : Nat) (n : Node) (results : Results) :
    DifferInVerdict (walkFrom services .fail r room n results)
      (walkFrom services .complete r room n results) := by
  induction room generalizing n results with
  | zero => exact arrive_policies services n results fun w => ⟨rfl, .cycle n.id results⟩
  | succ room ih =>
    refine arrive_policies services n results (.andThen _ fun visited => ?_)
    cases visited with
    | error e => exact .refl _
    | ok results =>
      dsimp only
      split
      · exact .refl _
      · split
        · exact .refl _
        · exact ih _ results

theorem walk_policies : DifferInVerdict (walk services .fail r) (walk services .complete r) := by
  unfold walk
  split
  · exact .refl _
  · exact walkFrom_policies services r r.nodes.length _ []

end

/-! ## The verdict of a prescribed walk -/

section

variable {r : RunRequest} {policy : RevisitPolicy} {log : Log} {walked : Walked} {id : String}

variable [Regex.Library]

/-- Where a run stops for a cycle, the policy does not allow it, and the node was visited. -/
theorem RunRequest.Stops.cycle_inv (h : r.Stops policy log (.cycleDetected id)) :
    policy = .fail ∧ id ∈ log.executed.map Node.id := by
  cases h with
  | blocked leads => cases leads
  | cycle fail _ old => exact ⟨fail, old⟩

/-- A walk that fails for a cycle has a result of the node that it came back to. -/
theorem Prescribed.cycle_inv (h : Prescribed r policy log walked)
    (cycle : walked.ending = .failed (.cycleDetected id)) :
    policy = .fail ∧ id ∈ walked.results.map Prod.fst := by
  obtain ⟨-, -, stops⟩ := (h.failed _).mp cycle
  obtain ⟨fail, old⟩ := stops.cycle_inv
  exact ⟨fail, h.ids ▸ old⟩

/-- The verdicts on one walk are the same, unless the strict one is a cycle; the lenient one never
is. -/
theorem Verdict.of_prescribed {strict lenient : Walked} {log' : Log} (v : Verdict strict lenient)
    (h : Prescribed r .fail log strict) (h' : Prescribed r .complete log' lenient) :
    lenient.results = strict.results ∧
      ((∀ id, strict.ending ≠ .failed (.cycleDetected id)) → lenient = strict) ∧
      ∀ id, strict.ending = .failed (.cycleDetected id) →
        lenient = ⟨.completed, strict.results⟩ ∧ id ∈ strict.results.map Prod.fst := by
  cases v with
  | same =>
    refine ⟨rfl, fun _ => rfl, fun id cycle => ?_⟩
    cases (h'.cycle_inv cycle).1
  | cycle id results =>
    refine ⟨rfl, fun other => absurd rfl (other id), fun id' cycle => ⟨rfl, ?_⟩⟩
    exact (h.cycle_inv cycle).2

end

variable [Regex.Library]

/-- **The policies differ at a cycle only.** For every request and everything outside (when the run
is asked to stop, and what the handlers answer), the run under the one policy and the run under the
other one check and execute the same, in the same order, with the same results. The outcomes are
equal, unless the strict run fails for a cycle: then its node has a result, and the lenient run is
completed, without an error, with the same results. -/
theorem run_policies (o : Outside σ) (r : RunRequest) (w : σ) :
    let outcome (policy : RevisitPolicy) := ((r.run o.toServices policy).run w).1
    let log (policy : RevisitPolicy) := ((r.run o.logged policy).run (w, .empty)).2.2
    log .complete = log .fail ∧ (outcome .complete).results = (outcome .fail).results ∧
      ∃ walked, Prescribed r .fail (log .fail) walked ∧ outcome .fail = r.outcome walked ∧
        ((∀ id, walked.ending ≠ .failed (.cycleDetected id)) → outcome .complete = outcome .fail) ∧
        ∀ id, walked.ending = .failed (.cycleDetected id) →
          outcome .complete =
              ⟨r.executionId, r.workflowId, .completed, (outcome .fail).results, none⟩ ∧
            id ∈ (outcome .fail).results.map Prod.fst := by
  intro outcome log
  -- Both runs report their beginning first, and walk in the world that this leaves.
  obtain ⟨w', walks⟩ : ∃ w', ∀ policy,
      ((r.run o.logged policy).run (w, .empty)).1 =
          r.outcome ((walk o.logged policy r).run (w', .empty)).1 ∧
        log policy = ((walk o.logged policy r).run (w', .empty)).2.2 := ⟨_, fun _ => ⟨rfl, rfl⟩⟩
  have outcomes (policy : RevisitPolicy) :
      outcome policy = r.outcome ((walk o.logged policy r).run (w', .empty)).1 :=
    (run_logged o.toServices policy r w .empty).symm.trans (walks policy).1
  have prescribed := walk_prescribed o .fail r w'
  obtain ⟨left, verdict⟩ := walk_policies o.logged r (w', .empty)
  obtain ⟨results, other, cycle⟩ :=
    verdict.of_prescribed prescribed (walk_prescribed o .complete r w')
  rw [outcomes, outcomes, (walks .fail).2, (walks .complete).2]
  refine ⟨by rw [left], results, _, prescribed, rfl, fun h => by rw [other h], fun id h => ?_⟩
  obtain ⟨completed, visited⟩ := cycle id h
  exact ⟨by rw [completed]; rfl, visited⟩

end Automation
