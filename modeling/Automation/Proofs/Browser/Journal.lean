import Automation.Proofs.Browser.Seam
import Mathlib.Control.Monad.Writer

/-!
# Journals of a browser

A journal tells what a browser was asked for, in order: launches, calls to pages, closings and
pauses. `Browser.journaled` keeps one, and a session cannot tell (`perform_journaled`).

`Managed.Ensures` is the logic of computations that hold the lock: what a computation answers, the
states of the session and of the world that it leaves, and what it adds to the journal. It goes
through a computation with one rule for each way to build one.
-/

namespace Automation

/-! ## Journals -/

/-- What a browser was asked for. -/
inductive Entry where
  | launched (answer : Except BrowserError Nat)
  /-- A call, with its error if it failed. -/
  | called (index : Nat) (c : PageCall) (error : Option BrowserError)
  | closed (index : Nat) (part : SessionPart)
  | slept (milliseconds : Nat)

/-- The error of an answer. -/
def errorOf? : Except ε α → Option ε
  | .error e => some e
  | .ok _ => none

/-- A computation that keeps a journal, in a world. -/
abbrev Journaled (σ : Type) := WriterT (List Entry) (StateM σ)

/-- Does something and writes it down. -/
def journal (x : StateM σ α) (entry : α → List Entry) : Journaled σ α :=
  WriterT.mk do
    let a ← x
    pure (a, entry a)

/-- The browser with a journal. -/
def Browser.journaled (b : Browser (StateM σ)) : Browser (Journaled σ) where
  launch := journal b.launch fun answer => [.launched answer]
  isUsable index := journal (b.isUsable index) fun _ => []
  call index c := journal (b.call index c) fun answer => [.called index c (errorOf? answer)]
  url index := journal (b.url index) fun _ => []
  title index := journal (b.title index) fun _ => []
  close index part := journal (b.close index part) fun _ => [.closed index part]
  watch index generation := journal (b.watch index generation) fun _ => []
  sleep milliseconds := journal (b.sleep milliseconds) fun _ => [.slept milliseconds]

/-- A computation with a journal corresponds to one that answers and leaves the same without it. -/
def journalErased (σ : Type) : Correspondence (Journaled σ) (StateM σ) where
  Holds x y := ∀ w, ((x.run.run w).1.1, (x.run.run w).2) = y.run w
  pure _ := fun _ => rfl
  bind := by
    intro _ _ x y f g hx hf w
    show (((f (x.run.run w).1.1).run.run (x.run.run w).2).1.1,
      ((f (x.run.run w).1.1).run.run (x.run.run w).2).2) = (g (y.run w).1).run (y.run w).2
    rw [← hx w]
    exact hf _ _

theorem journaled_corresponds (b : Browser (StateM σ)) :
    b.journaled.Corresponds (journalErased σ) b where
  launch _ := rfl
  isUsable _ _ := rfl
  page _ := ⟨fun _ _ => rfl, fun _ => rfl, fun _ => rfl, fun _ _ => rfl⟩
  close _ _ _ := rfl
  watch _ _ _ := rfl

/-- A computation answers, leaves the world and writes a journal so that something holds. -/
def Journaled.Ensures (x : Journaled σ α) (w : σ) (Q : α → σ → List Entry → Prop) : Prop :=
  Q (x.run.run w).1.1 (x.run.run w).2 (x.run.run w).1.2

/-- A computation that holds the lock answers, leaves the state of the session and the world and
writes a journal so that something holds. -/
def Managed.Ensures (x : Managed (Journaled σ) α) (s : SessionState) (w : σ)
    (Q : α → SessionState → σ → List Entry → Prop) : Prop :=
  Journaled.Ensures (x.run s) w fun p w' j => Q p.1 p.2 w' j

section

variable {x : Journaled σ α} {w : σ} {f : α → Journaled σ β} {Q R : α → σ → List Entry → Prop}

namespace Journaled

theorem Ensures.mono (h : x.Ensures w Q) (imp : ∀ a w' j, Q a w' j → R a w' j) :
    x.Ensures w R :=
  imp _ _ _ h

theorem ensures_pure {a : α} (h : Q a w []) : Ensures (pure a : Journaled σ α) w Q :=
  h

theorem ensures_bind {Q : β → σ → List Entry → Prop}
    (h : x.Ensures w fun a w' j => (f a).Ensures w' fun c w'' j' => Q c w'' (j ++ j')) :
    Ensures (x >>= f) w Q :=
  h

theorem ensures_journal {x : StateM σ α} {entry : α → List Entry}
    (h : ∀ a w', Q a w' (entry a)) : (journal x entry).Ensures w Q :=
  h _ _

theorem ensures_journal_of_run {x : StateM σ α} {entry : α → List Entry}
    (h : ∀ a w', x.run w = (a, w') → Q a w' (entry a)) : (journal x entry).Ensures w Q :=
  h _ _ rfl

/-- After a part that fails nothing is done. -/
theorem ensures_orElse {x : ExceptT ε (Journaled σ) α} {f : α → ExceptT ε (Journaled σ) β}
    {Q : Except ε β → σ → List Entry → Prop}
    (h : Ensures x.run w fun answer w' j =>
      match answer with
      | .ok a => Ensures (f a).run w' fun c w'' j' => Q c w'' (j ++ j')
      | .error e => Q (.error e) w' j) :
    Ensures (x >>= f).run w Q := by
  refine ensures_bind (h.mono fun answer w' j after => ?_)
  cases answer with
  | ok a => exact after
  | error e =>
    show Q (.error e) w' (j ++ [])
    rwa [List.append_nil]

/-- After what is known to fail nothing is done. -/
theorem ensures_given {answer : Except ε α} {f : α → ExceptT ε (Journaled σ) β}
    {Q : Except ε β → σ → List Entry → Prop} (failed : ∀ e, answer = .error e → Q (.error e) w [])
    (ok : ∀ a, answer = .ok a → Ensures (f a).run w Q) :
    Ensures (ExceptT.mk (pure answer) >>= f).run w Q := by
  cases answer with
  | error e => exact failed e rfl
  | ok a => exact ok a rfl

end Journaled

end

namespace Managed

section

variable {x : Managed (Journaled σ) α} {s : SessionState} {w : σ} {f : α → Managed (Journaled σ) β}
  {Q R : α → SessionState → σ → List Entry → Prop}

theorem Ensures.mono (h : x.Ensures s w Q) (imp : ∀ a s' w' j, Q a s' w' j → R a s' w' j) :
    x.Ensures s w R :=
  imp _ _ _ _ h

theorem Ensures.and (h : x.Ensures s w Q) (h' : x.Ensures s w R) :
    x.Ensures s w fun a s' w' j => Q a s' w' j ∧ R a s' w' j :=
  ⟨h, h'⟩

theorem ensures_pure {a : α} (h : Q a s w []) : Ensures (pure a : Managed (Journaled σ) α) s w Q :=
  h

theorem ensures_bind {Q : β → SessionState → σ → List Entry → Prop}
    (h : x.Ensures s w fun a s' w' j =>
      (f a).Ensures s' w' fun c s'' w'' j' => Q c s'' w'' (j ++ j')) :
    Ensures (x >>= f) s w Q :=
  h

theorem ensures_get {Q : SessionState → SessionState → σ → List Entry → Prop} (h : Q s s w []) :
    Ensures (get : Managed (Journaled σ) SessionState) s w Q :=
  h

theorem ensures_modify {Q : Unit → SessionState → σ → List Entry → Prop}
    {g : SessionState → SessionState} (h : Q () (g s) w []) :
    Ensures (modify g : Managed (Journaled σ) Unit) s w Q :=
  h

/-- What only concerns the browser leaves the state of the session as it is. -/
theorem ensures_lift {x : Journaled σ α} (h : x.Ensures w fun a w' j => Q a s w' j) :
    Ensures (liftM x : Managed (Journaled σ) α) s w Q := by
  show Q _ _ _ (_ ++ [])
  rw [List.append_nil]
  exact h

/-- What a computation ensures with a journal, it ensures without it. -/
theorem Ensures.erased (h : x.Ensures s w Q) {y : Managed (StateM σ) α}
    (same : (Browser.managed (journalErased σ)).Holds x y) {v : α} {s' : SessionState} {w' : σ}
    (run : (y.run s).run w = ((v, s'), w')) : ∃ j, Q v s' w' j := by
  obtain ⟨value, world⟩ := Prod.mk.inj ((same s w).trans run)
  have h : Q ((x.run s).run.run w).1.1.1 ((x.run s).run.run w).1.1.2 ((x.run s).run.run w).2
    ((x.run s).run.run w).1.2 := h
  rw [value, world] at h
  exact ⟨_, h⟩

/-- Whatever the browser answers, it is written down. -/
theorem ensures_ask {x : StateM σ α} {entry : α → List Entry} (h : ∀ a w', Q a s w' (entry a)) :
    Ensures (liftM (journal x entry) : Managed (Journaled σ) α) s w Q :=
  ensures_lift (Journaled.ensures_journal h)

end

end Managed

end Automation
