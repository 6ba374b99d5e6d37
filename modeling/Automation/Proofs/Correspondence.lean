import Automation.Activity.Basic

/-!
# Correspondences of computations

A program that works in any monad cannot tell one monad from another. If a relation between the
computations of two monads is kept by `pure` and `bind`, and the services that such a program is
given correspond, then what it makes of them corresponds too. For each such program that is one
lemma, next to the program; here are the relations.

`recordErased` relates a computation that keeps a record of what was asked, next to its state, with
the one that does not. For an activity there is also `Activity.Always`: what holds of whatever it
ends with, however others change the state between its steps.

In the same way a program in any monad cannot but answer what its services let it. An `Assurance` is
a sense in which what a computation answers has a property; for activities it is
`Activity.AlwaysWhile`.
-/

namespace Automation

/-- A relation between the computations of two monads that sequences keep. -/
structure Correspondence (m n : Type → Type) [Monad m] [Monad n] where
  Holds {α : Type} : m α → n α → Prop
  pure {α : Type} (a : α) : Holds (Pure.pure a) (Pure.pure a)
  bind {α β : Type} {x : m α} {y : n α} {f : α → m β} {g : α → n β} :
    Holds x y → (∀ a, Holds (f a) (g a)) → Holds (x >>= f) (y >>= g)

namespace Correspondence

variable {m n : Type → Type} [Monad m] [Monad n]

/-- The correspondence of computations with a state of their own. -/
def stateful (R : Correspondence m n) (ρ : Type) : Correspondence (StateT ρ m) (StateT ρ n) where
  Holds x y := ∀ s, R.Holds (x.run s) (y.run s)
  pure a := fun s => R.pure (a, s)
  bind hx hf := fun s => R.bind (hx s) fun p => hf p.1 p.2

/-- The correspondence of computations that may fail. -/
def fallible (R : Correspondence m n) (ε : Type) : Correspondence (ExceptT ε m) (ExceptT ε n) where
  Holds x y := R.Holds x.run y.run
  pure a := R.pure (Except.ok a)
  bind hx hf := R.bind hx fun
    | Except.ok a => hf a
    | Except.error e => R.pure (Except.error e)

end Correspondence

namespace Activity

/-- Whatever the state is at each step, the activity ends with what has a property. -/
def Always (P : α → Prop) : Activity σ α → Prop
  | done a => P a
  | read next => ∀ s, (next s).Always P
  | write _ next => next.Always P
  | pause _ next => next.Always P

theorem Always.mono {P Q : α → Prop} {a : Activity σ α} (h : a.Always P)
    (imp : ∀ x, P x → Q x) : a.Always Q := by
  induction a with
  | done a => exact imp a h
  | read next ih => exact fun s => ih s (h s)
  | write change next ih => exact ih h
  | pause reason next ih => exact ih h

theorem always_of_forall {P : α → Prop} (h : ∀ a, P a) (a : Activity σ α) : a.Always P := by
  induction a with
  | done a => exact h a
  | read next ih => exact fun s => ih s
  | write change next ih => exact ih
  | pause reason next ih => exact ih

theorem always_bind {P : α → Prop} {Q : β → Prop} {a : Activity σ α} {f : α → Activity σ β}
    (ha : a.Always P) (hf : ∀ x, P x → (f x).Always Q) : (a >>= f).Always Q := by
  show (a.bind f).Always Q
  induction a with
  | done a => exact hf a ha
  | read next ih => exact fun s => ih s (ha s)
  | write change next ih => exact ih ha
  | pause reason next ih => exact ih ha

/-- An activity on a part of the state ends as it does on the part. -/
theorem always_onPart {P : α → Prop} {get : τ → σ} {set : σ → τ → τ} {a : Activity σ α}
    (h : a.Always P) : (a.onPart get set).Always P := by
  induction a with
  | done a => exact h
  | read next ih => exact fun t => ih (get t) (h (get t))
  | write change next ih => exact ih h
  | pause reason next ih => exact ih h

end Activity

/-! ## What computations answer -/

/-- A sense in which whatever a computation answers has a property. Sequences keep it. -/
structure Assurance (m : Type → Type) [Monad m] where
  Holds {α : Type} : (α → Prop) → m α → Prop
  pure {α : Type} {P : α → Prop} {a : α} : P a → Holds P (Pure.pure a)
  bind {α β : Type} {P : α → Prop} {Q : β → Prop} {x : m α} {f : α → m β} :
    Holds P x → (∀ a, P a → Holds Q (f a)) → Holds Q (x >>= f)
  /-- What everything has, every answer has. -/
  all {α : Type} {P : α → Prop} : (∀ a, P a) → ∀ x, Holds P x
  mono {α : Type} {P Q : α → Prop} {x : m α} : Holds P x → (∀ a, P a → Q a) → Holds Q x

namespace Assurance

variable {m : Type → Type} [Monad m] (W : Assurance m)

/-- What comes after anything. -/
theorem after {α β : Type} {Q : β → Prop} {x : m α} {f : α → m β} (hf : ∀ a, W.Holds Q (f a)) :
    W.Holds Q (x >>= f) :=
  W.bind (W.all (fun _ => trivial) x) fun a _ => hf a

/-- What computations with a state of their own answer, whatever the state is. -/
def stateful (ρ : Type) : Assurance (StateT ρ m) where
  Holds {α} P x := ∀ s, W.Holds (fun answer : α × ρ => P answer.1) (x.run s)
  pure h := fun _ => W.pure h
  bind hx hf := fun s => W.bind (hx s) fun answer h => hf answer.1 h answer.2
  all h x := fun s => W.all (fun answer => h answer.1) (x.run s)
  mono hx imp := fun s => W.mono (hx s) fun answer => imp answer.1

/-- What computations that may fail answer, unless they do. -/
def fallible (ε : Type) : Assurance (ExceptT ε m) where
  Holds P x := W.Holds (fun answer => ∀ a, answer = .ok a → P a) x.run
  pure h := W.pure fun _ same => Except.ok.inj same ▸ h
  bind hx hf := W.bind hx fun
    | Except.ok a, h => hf a (h a rfl)
    | Except.error _, _ => W.pure nofun
  all h x := W.all (fun _ a _ => h a) x.run
  mono hx imp := W.mono hx fun _ h a same => imp a (h a same)

end Assurance

namespace Activity

/-- As long as the state has a property at each step, the activity ends with what has another. -/
def AlwaysWhile (I : σ → Prop) (P : α → Prop) : Activity σ α → Prop
  | done a => P a
  | read next => ∀ s, I s → (next s).AlwaysWhile I P
  | write _ next => next.AlwaysWhile I P
  | pause _ next => next.AlwaysWhile I P

variable {I : σ → Prop}

theorem AlwaysWhile.mono {P Q : α → Prop} {a : Activity σ α} (h : a.AlwaysWhile I P)
    (imp : ∀ x, P x → Q x) : a.AlwaysWhile I Q := by
  induction a with
  | done a => exact imp a h
  | read next ih => exact fun s inv => ih s (h s inv)
  | write change next ih => exact ih h
  | pause reason next ih => exact ih h

theorem Always.alwaysWhile {P : α → Prop} {a : Activity σ α} (h : a.Always P) :
    a.AlwaysWhile I P := by
  induction a with
  | done a => exact h
  | read next ih => exact fun s _ => ih s (h s)
  | write change next ih => exact ih h
  | pause reason next ih => exact ih h

theorem alwaysWhile_bind {P : α → Prop} {Q : β → Prop} {a : Activity σ α} {f : α → Activity σ β}
    (ha : a.AlwaysWhile I P) (hf : ∀ x, P x → (f x).AlwaysWhile I Q) :
    (a >>= f).AlwaysWhile I Q := by
  show (a.bind f).AlwaysWhile I Q
  induction a with
  | done a => exact hf a ha
  | read next ih => exact fun s inv => ih s (ha s inv)
  | write change next ih => exact ih ha
  | pause reason next ih => exact ih ha

/-- What activities answer as long as the state has a property. -/
def assurance (I : σ → Prop) : Assurance (Activity σ) where
  Holds P a := a.AlwaysWhile I P
  pure h := h
  bind := alwaysWhile_bind
  all h a := (always_of_forall h a).alwaysWhile
  mono := AlwaysWhile.mono

end Activity

/-- A computation after another one starts from the state that the other one left. -/
theorem run_andThen (x : StateM σ α) (f : α → StateM σ β) (w : σ) :
    (x >>= f).run w = (f (x.run w).1).run (x.run w).2 := rfl

/-- A computation that keeps a record next to its state corresponds to one that does not, if it
answers and leaves the same whatever the record is. -/
def recordErased (σ ρ : Type) : Correspondence (StateM (σ × ρ)) (StateM σ) where
  Holds x y := ∀ w log, ((x.run (w, log)).1, (x.run (w, log)).2.1) = y.run w
  pure _ := fun _ _ => rfl
  bind := by
    intro _ _ x y f g hx hf w log
    have first := hx w log
    show (((f (x.run (w, log)).1).run (x.run (w, log)).2).1,
      ((f (x.run (w, log)).1).run (x.run (w, log)).2).2.1) =
        (g (y.run w).1).run (y.run w).2
    rw [← first]
    exact hf _ _ _

end Automation
