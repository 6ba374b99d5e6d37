import Automation.Proofs.Browser.Journal

/-!
# Using a browser in order

A session launches only when none is in use, calls only the page of the one in use, and tears that
one down as a whole. What stays true of a browser as long as it is used in this order
(`Browser.Keeps`) therefore stays true whatever a session does: `acquire_preserves`, `attempts_preserves` and
`shutdown_preserves`.

An invariant speaks of how many sessions were launched and which one is in use, of the world, and of
the journal so far.
-/

namespace Automation

open Managed

/-- How many sessions were launched, and which one is in use. -/
def SessionState.holding (s : SessionState) : Nat × Option Nat :=
  (s.generation, s.current)

@[simp] theorem SessionState.holding_withStatus (status : SessionStatus) (s : SessionState) :
    (s.withStatus status).holding = s.holding := rfl

section

variable {σ : Type} {I : Nat × Option Nat → σ → List Entry → Prop}

/-! ## Invariants -/

/-- Computations that keep something of the world and the journal so far. -/
def keeping (I : σ → List Entry → Prop) : Correspondence (Journaled σ) (Journaled σ) where
  Holds x _ := ∀ w j, I w j → x.Ensures w fun _ w' j' => I w' (j ++ j')
  pure _ := fun w j h => Journaled.ensures_pure (by rwa [List.append_nil])
  bind hx hf := fun w j h => Journaled.ensures_bind <| (hx w j h).mono fun a w' j' h' =>
    (hf a w' _ h').mono fun _ _ j'' h'' => by rwa [← List.append_assoc]

/-- **What a browser keeps as long as it is used in order.** -/
structure Browser.Keeps (b : Browser (Journaled σ)) (I : Nat × Option Nat → σ → List Entry → Prop) :
    Prop where
  launch {n w j} (h : I (n, none) w j) : b.launch.Ensures w fun answer w' j' =>
    match answer with
    | .ok index => I (n + 1, some index) w' (j ++ j')
    | .error _ => I (n, none) w' (j ++ j')
  isUsable {held} (index : Nat) : (keeping (I held)).Holds (b.isUsable index) (b.isUsable index)
  page (n index : Nat) : b.CorrespondsOn (keeping (I (n, some index))) index b
  teardown {n index w j} (h : I (n, some index) w j) :
    (b.close index .page).Ensures w fun _ w₁ j₁ =>
      (b.close index .context).Ensures w₁ fun _ w₂ j₂ =>
        (b.close index .process).Ensures w₂ fun _ w₃ j₃ =>
          I (n, none) w₃ (j ++ (j₁ ++ (j₂ ++ j₃)))
  watch {held} (index generation : Nat) :
    (keeping (I held)).Holds (b.watch index generation) (b.watch index generation)

/-- A computation that holds the lock keeps an invariant. -/
def Managed.Preserves (I : Nat × Option Nat → σ → List Entry → Prop) (x : Managed (Journaled σ) α) :
    Prop :=
  ∀ s w j, I s.holding w j → x.Ensures s w fun _ s' w' j' => I s'.holding w' (j ++ j')

namespace Managed

theorem preserves_pure (a : α) : Preserves I (pure a) :=
  fun s w j h => ensures_pure (by rwa [List.append_nil])

theorem preserves_bind {x : Managed (Journaled σ) α} {f : α → Managed (Journaled σ) β}
    (hx : Preserves I x) (hf : ∀ a, Preserves I (f a)) : Preserves I (x >>= f) :=
  fun s w j h => ensures_bind <| (hx s w j h).mono fun a s' w' j' h' =>
    (hf a s' w' _ h').mono fun _ _ _ j'' h'' => by rwa [← List.append_assoc]

/-- A new status is none of its concern. -/
theorem preserves_withStatus (status : SessionStatus) :
    Preserves I (modify (SessionState.withStatus status)) :=
  fun s w j h => ensures_modify (by rwa [List.append_nil])

end Managed

/-! ## What sessions do -/

namespace Browser

variable {b : Browser (Journaled σ)}

theorem usable?_preserves (keeps : b.Keeps I) {s : SessionState} {w : σ} {j : List Entry}
    (h : I s.holding w j) : b.usable?.Ensures s w fun index s' w' j' => s' = s ∧
      I s.holding w' (j ++ j') ∧ ∀ i, index = some i → s.current = some i := by
  unfold usable?
  refine ensures_bind (ensures_get ?_)
  split
  case h_1 => exact ensures_pure ⟨rfl, by simpa using h, by simp⟩
  case h_2 i inUse =>
    refine ensures_bind (ensures_lift ((keeps.isUsable i w j h).mono fun usable w' j' h' => ?_))
    refine ensures_pure ⟨rfl, by simpa using h', fun i' usable => ?_⟩
    split at usable
    · exact inUse.trans usable
    · cases usable

theorem teardown_preserves (keeps : b.Keeps I) {s : SessionState} {w : σ} {j : List Entry}
    (h : I s.holding w j) : b.teardown.Ensures s w fun _ s' w' j' => s' = s.released ∧
      I (s.generation, none) w' (j ++ j') := by
  unfold teardown
  refine ensures_bind (ensures_get ?_)
  split
  case h_1 none =>
    rw [SessionState.holding, none] at h
    refine ensures_pure ⟨?_, by simpa using h⟩
    cases s
    simp_all [SessionState.released]
  case h_2 index inUse =>
    rw [SessionState.holding, inUse] at h
    refine ensures_bind (ensures_modify ?_)
    refine ensures_bind (ensures_lift ((keeps.teardown h).mono fun _ w j₁ h => ?_))
    refine ensures_bind (ensures_lift (h.mono fun _ w j₂ h => ?_))
    refine ensures_bind (ensures_lift (h.mono fun _ w j₃ h => ?_))
    exact ensures_pure ⟨rfl, by simpa using h⟩

/-- By induction on the tries that are left. A launched session is in use before anything else is
done. -/
theorem launchUsable_preserves (keeps : b.Keeps I) (tries : Nat) (last : BrowserError) :
    Preserves I (b.launchUsable tries last) := by
  induction tries generalizing last with
  | zero => exact preserves_pure _
  | succ tries ih =>
    intro s w j h
    unfold launchUsable
    refine ensures_bind ((teardown_preserves keeps h).mono ?_)
    rintro _ _ w j₁ ⟨rfl, h⟩
    refine ensures_bind (ensures_modify (ensures_bind (ensures_lift ?_)))
    refine (keeps.launch h).mono fun launched w j₂ h => ?_
    cases launched with
    | error e =>
      refine (ih e (s.released.withStatus .disconnected) w _ h).mono fun _ s' w' j' h => ?_
      simpa using h
    | ok index =>
      refine ensures_bind (ensures_modify (ensures_bind (ensures_get ?_)))
      refine ensures_bind (ensures_lift ((keeps.watch index _ w _ h).mono fun _ w j₃ h => ?_))
      let s₁ := (s.released.withStatus .disconnected).adopted index
      refine ensures_bind ((usable?_preserves keeps (s := s₁) h).mono ?_)
      rintro usable _ w j₄ ⟨rfl, h, _⟩
      cases usable with
      | some _ => exact ensures_bind (ensures_modify (ensures_pure (by simpa using h)))
      | none =>
        refine (ih .unusable s₁ w _ h).mono fun _ s' w' j' h => ?_
        simpa using h

theorem acquire_preserves (keeps : b.Keeps I) : Preserves I b.acquire := by
  have isReady : Preserves I b.isReady := by
    unfold isReady
    intro s w j h
    refine ensures_bind (ensures_get ?_)
    split
    · refine ensures_bind ((usable?_preserves keeps h).mono ?_)
      rintro _ _ w j' ⟨rfl, h, _⟩
      exact ensures_pure (by simpa using h)
    · exact ensures_pure (by simpa using h)
  refine preserves_bind isReady fun ready => ?_
  split
  · exact fun s w j h => ensures_bind (ensures_get (ensures_pure (by simpa using h)))
  · exact launchUsable_preserves keeps 2 .unusable

theorem shutdown_preserves (keeps : b.Keeps I) : Preserves I b.shutdown := by
  intro s w j h
  refine ensures_bind ((teardown_preserves keeps h).mono ?_)
  rintro _ _ w j' ⟨rfl, h⟩
  refine ensures_modify ?_
  rw [List.append_nil]
  exact h

variable [Web.Library]

/-- Work on a page is work on the one in use. -/
theorem attempt_preserves (keeps : b.Keeps I) (config : BrowserConfig) (a : BrowserAction) :
    Preserves I (b.attempt config a) := by
  refine preserves_bind (acquire_preserves keeps) fun acquired => ?_
  cases acquired with
  | error e => exact preserves_pure _
  | ok generation =>
    intro _ w j h
    refine ensures_bind ((usable?_preserves keeps h).mono ?_)
    rintro usable s w j' ⟨rfl, h, inUse⟩
    cases usable with
    | none => exact ensures_pure (by simpa using h)
    | some index =>
      rw [SessionState.holding, inUse index rfl] at h
      have work := execute_corresponds (keeps.page s.generation index) config a w _ h
      refine ensures_lift (work.mono fun _ w' j'' h => ?_)
      rw [SessionState.holding, inUse index rfl]
      simpa using h

theorem attempts_preserves (keeps : b.Keeps I) (config : BrowserConfig) (a : BrowserAction)
    (retries : Nat) : Preserves I (b.attempts config a retries) := by
  have noteLoss (e : BrowserError) : Preserves I (noteLoss e : Managed (Journaled σ) Unit) := by
    unfold noteLoss
    split
    · exact preserves_withStatus _
    · exact preserves_pure _
  induction retries with
  | zero =>
    refine preserves_bind (attempt_preserves keeps config a) fun outcome => ?_
    cases outcome with
    | ok r => exact preserves_pure _
    | error e => exact preserves_bind (noteLoss e) fun _ => preserves_pure _
  | succ retries ih =>
    refine preserves_bind (attempt_preserves keeps config a) fun outcome => ?_
    cases outcome with
    | ok r => exact preserves_pure _
    | error e =>
      refine preserves_bind (noteLoss e) fun _ => ?_
      split
      · exact ih
      · exact preserves_pure _

/-- Whatever an action does is in order. -/
theorem perform_preserves (keeps : b.Keeps I) (config : BrowserConfig) (a : BrowserAction) :
    Preserves I (b.perform id config a) := by
  unfold perform
  cases a.validate with
  | error e => exact preserves_pure _
  | ok _ => exact attempts_preserves keeps config a _

end Browser

end

end Automation
