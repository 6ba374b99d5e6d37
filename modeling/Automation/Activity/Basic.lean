/-!
# Activities

An activity works on a state that it shares with others. It reads and changes the state in atomic
steps, and between them it may pause: for a time, to let others go first, or to take or release the
lock. What else happens during a pause is not its concern: whoever runs an activity decides. `run`
runs one alone and adds up the time that it slept.
-/

namespace Automation

/-- Why an activity pauses. -/
inductive Pause where
  /-- It sleeps for a number of milliseconds. -/
  | sleep (milliseconds : Nat)
  /-- It lets others go first. -/
  | yield
  /-- It waits until the lock is its own. -/
  | lock
  /-- It gives the lock back. -/
  | unlock
  deriving Repr, DecidableEq

/-- A computation of an `α` on a shared state `σ`. -/
inductive Activity (σ α : Type) where
  | done (a : α)
  | read (next : σ → Activity σ α)
  | write (change : σ → σ) (next : Activity σ α)
  | pause (reason : Pause) (next : Activity σ α)

namespace Activity

/-- One activity after another. -/
protected def bind : Activity σ α → (α → Activity σ β) → Activity σ β
  | done a, f => f a
  | read next, f => read fun s => (next s).bind f
  | write change next, f => write change (next.bind f)
  | pause reason next, f => pause reason (next.bind f)

instance : Monad (Activity σ) where
  pure := done
  bind := Activity.bind

/-- An atomic step. -/
def step (f : σ → α × σ) : Activity σ α :=
  read fun s => write (fun _ => (f s).2) (done (f s).1)

/-- An atomic change. -/
def modify (f : σ → σ) : Activity σ Unit :=
  write f (done ())

/-- The shared state. -/
def get : Activity σ σ :=
  read done

/-- A pause. -/
def wait (reason : Pause) : Activity σ Unit :=
  pause reason (done ())

/-- A pause of some time; no time is no pause. -/
def sleep (milliseconds : Nat) : Activity σ Unit :=
  if milliseconds = 0 then done () else wait (.sleep milliseconds)

/-- An activity that holds the lock. -/
def locked (body : Activity σ α) : Activity σ α := do
  wait .lock
  let a ← body
  wait .unlock
  pure a

/-- An activity on a part of the state. -/
def onPart (get : τ → σ) (set : σ → τ → τ) : Activity σ α → Activity τ α
  | done a => done a
  | read next => read fun t => (next (get t)).onPart get set
  | write change next => write (fun t => set (change (get t)) t) (next.onPart get set)
  | pause reason next => pause reason (next.onPart get set)

/-- The time that a pause takes if nobody else is there. -/
def Pause.time : Pause → Nat
  | .sleep ms => ms
  | _ => 0

/-- What an activity that runs alone answers: its value, the state it leaves and the time that it
slept. -/
structure Completion (σ α : Type) where
  value : α
  state : σ
  waited : Nat

/-- Runs an activity alone. -/
def run : Activity σ α → σ → Completion σ α
  | done a, s => ⟨a, s, 0⟩
  | read next, s => (next s).run s
  | write change next, s => next.run (change s)
  | pause reason next, s =>
    let c := next.run s
    { c with waited := Pause.time reason + c.waited }

/-- An activity up to its next pause. -/
inductive Progress (σ α : Type) where
  | finished (a : α)
  | paused (reason : Pause) (rest : Activity σ α)

/-- Runs an activity up to its next pause. -/
def advance : Activity σ α → σ → Progress σ α × σ
  | done a, s => (.finished a, s)
  | read next, s => (next s).advance s
  | write change next, s => next.advance (change s)
  | pause reason next, s => (.paused reason next, s)

end Activity

end Automation
