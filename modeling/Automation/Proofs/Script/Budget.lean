import Automation.Script.Run

/-!
# Scripts under a budget

What a script does is said first without a budget and without a count in its state: `Performs`
relates statements and variables to the number of steps that they take (one for each statement that
is executed and one for each round of a loop), how they end and the variables that they leave. Every
script performs one thing (`exists_performs`, `Performs.unique`).

A run under a budget does the same as long as the budget lasts, and not one step more (`Budgeted`).
So the number of steps is the threshold between the budgets that are exhausted and those that make
no difference (`run_threshold`).
-/

namespace Automation.Script

open Automation.Expr

/-- How a statement or a block ends: with the next statement, with a result or with an error. -/
abbrev Ending := Except ExprError Flow

/-- Whether nothing more is executed after the ending. -/
inductive Stops : Ending → Prop where
  | result (v : Value) : Stops (.ok (.result v))
  | error (e : ExprError) : Stops (.error e)

/-- An ending lets the next statement follow, or it does not. -/
theorem next_or_stops (ending : Ending) : ending = .ok .next ∨ Stops ending := by
  cases ending with
  | error e => exact .inr (.error e)
  | ok flow =>
    cases flow with
    | next => exact .inl rfl
    | result v => exact .inr (.result v)

/-- The expression that a statement evaluates before all else; a conditional statement has one for
each branch. -/
def firstOperand? : Stmt → Option Term
  | .declare _ value => some value
  | .assign _ _ value => some value
  | .branch _ _ => none
  | .loop _ items _ => some items
  | .ret value => value
  | .throw value => some value
  | .expr value => some value

/-! ## What a script does -/

section

variable [Regex.Library]

mutual

/-- `Performs s vars n ending vars'`: with the variables `vars` the statement takes `n` steps, ends
as said and leaves the variables `vars'`. -/
inductive Performs : Stmt → Fields → Nat → Ending → Fields → Prop where
  | fault {s x vars e} (first : firstOperand? s = some x) (h : x.eval .strict vars = .error e) :
    Performs s vars 1 (.error e) vars
  | declare {name value vars v} (h : value.eval .strict vars = .ok v) :
    Performs (.declare name value) vars 1 (.ok .next) (Fields.insert name v vars)
  | keyFault {name path value vars v e} (h : value.eval .strict vars = .ok v)
    (keys : pathKeys vars path = .error e) :
    Performs (.assign name path value) vars 1 (.error e) vars
  | assign {name path value vars v keys answer vars'} (h : value.eval .strict vars = .ok v)
    (resolved : pathKeys vars path = .ok keys)
    (stored : assignPath vars name keys v = (answer, vars')) :
    Performs (.assign name path value) vars 1 (answer.map fun _ => .next) vars'
  | branch {branches otherwise vars n ending vars'}
    (h : Chooses branches otherwise vars n ending vars') :
    Performs (.branch branches otherwise) vars (n + 1) ending vars'
  | itemFault {name items body vars v e} (h : items.eval .strict vars = .ok v)
    (fault : itemsOf v = .error e) : Performs (.loop name items body) vars 1 (.error e) vars
  | loop {name items body vars v visited n ending vars'} (h : items.eval .strict vars = .ok v)
    (visits : itemsOf v = .ok visited) (rounds : Repeats name body visited vars n ending vars') :
    Performs (.loop name items body) vars (n + 1) ending vars'
  | retNull {vars} : Performs (.ret none) vars 1 (.ok (.result .null)) vars
  | ret {value vars v} (h : value.eval .strict vars = .ok v) :
    Performs (.ret (some value)) vars 1 (.ok (.result v)) vars
  | throw {value vars v} (h : value.eval .strict vars = .ok v) :
    Performs (.throw value) vars 1 (.error (.thrown (thrownText v))) vars
  | expr {value vars v} (h : value.eval .strict vars = .ok v) :
    Performs (.expr value) vars 1 (.ok .next) vars

/-- The statements of a block, up to the first one that stops it. -/
inductive PerformsAll : List Stmt → Fields → Nat → Ending → Fields → Prop where
  | nil {vars} : PerformsAll [] vars 0 (.ok .next) vars
  | next {s rest vars n vars' m ending vars''} (first : Performs s vars n (.ok .next) vars')
    (further : PerformsAll rest vars' m ending vars'') :
    PerformsAll (s :: rest) vars (n + m) ending vars''
  | stop {s rest vars n ending vars'} (first : Performs s vars n ending vars')
    (stops : Stops ending) : PerformsAll (s :: rest) vars n ending vars'

/-- The block of the first branch whose condition is true, or the last block if there is one. Only
what the block does takes steps. -/
inductive Chooses :
    List (Term × List Stmt) → Option (List Stmt) → Fields → Nat → Ending → Fields → Prop where
  | conditionFault {condition body rest otherwise vars e}
    (h : condition.eval .strict vars = .error e) :
    Chooses ((condition, body) :: rest) otherwise vars 0 (.error e) vars
  | here {condition body rest otherwise vars v n ending vars'}
    (h : condition.eval .strict vars = .ok v) (true : v.truthy = true)
    (block : PerformsAll body vars n ending vars') :
    Chooses ((condition, body) :: rest) otherwise vars n ending vars'
  | later {condition body rest otherwise vars v n ending vars'}
    (h : condition.eval .strict vars = .ok v) (false : v.truthy = false)
    (further : Chooses rest otherwise vars n ending vars') :
    Chooses ((condition, body) :: rest) otherwise vars n ending vars'
  | otherwise {body vars n ending vars'} (block : PerformsAll body vars n ending vars') :
    Chooses [] (some body) vars n ending vars'
  | nothing {vars} : Chooses [] none vars 0 (.ok .next) vars

/-- The rounds of a loop, up to the first one that stops it. Each round is a step of its own. -/
inductive Repeats : String → List Stmt → List Value → Fields → Nat → Ending → Fields → Prop where
  | noRound {name body vars} : Repeats name body [] vars 0 (.ok .next) vars
  | round {name body item rest vars n vars' m ending vars''}
    (block : PerformsAll body (Fields.insert name item vars) n (.ok .next) vars')
    (further : Repeats name body rest vars' m ending vars'') :
    Repeats name body (item :: rest) vars (n + 1 + m) ending vars''
  | lastRound {name body item rest vars n ending vars'}
    (block : PerformsAll body (Fields.insert name item vars) n ending vars')
    (stops : Stops ending) : Repeats name body (item :: rest) vars (n + 1) ending vars'

end

/-- The rounds of a loop are performed if its block is. -/
theorem exists_repeats (name : String) {body : List Stmt}
    (block : ∀ vars, ∃ n ending vars', PerformsAll body vars n ending vars') (items : List Value)
    (vars : Fields) : ∃ n ending vars', Repeats name body items vars n ending vars' := by
  induction items generalizing vars with
  | nil => exact ⟨_, _, _, .noRound⟩
  | cons item rest ih =>
    obtain ⟨n, ending, vars', round⟩ := block (Fields.insert name item vars)
    rcases next_or_stops ending with rfl | stops
    · obtain ⟨m, ending, vars'', further⟩ := ih vars'
      exact ⟨_, _, _, .round round further⟩
    · exact ⟨_, _, _, .lastRound round stops⟩

mutual

/-- Every statement performs something. -/
theorem exists_performs (vars : Fields) :
    ∀ s : Stmt, ∃ n ending vars', Performs s vars n ending vars'
  | .declare name value => by
    cases h : value.eval .strict vars with
    | error e => exact ⟨_, _, _, .fault rfl h⟩
    | ok v => exact ⟨_, _, _, .declare h⟩
  | .assign name path value => by
    cases h : value.eval .strict vars with
    | error e => exact ⟨_, _, _, .fault rfl h⟩
    | ok v =>
      cases keys : pathKeys vars path with
      | error e => exact ⟨_, _, _, .keyFault h keys⟩
      | ok keys' => exact ⟨_, _, _, .assign h keys rfl⟩
  | .branch branches otherwise => by
    obtain ⟨n, ending, vars', h⟩ := exists_chooses vars (exists_otherwise vars otherwise) branches
    exact ⟨_, _, _, .branch h⟩
  | .loop name items body => by
    cases h : items.eval .strict vars with
    | error e => exact ⟨_, _, _, .fault rfl h⟩
    | ok v =>
      cases visits : itemsOf v with
      | error e => exact ⟨_, _, _, .itemFault h visits⟩
      | ok visited =>
        obtain ⟨n, ending, vars', rounds⟩ :=
          exists_repeats name (fun vars => exists_performsAll vars body) visited vars
        exact ⟨_, _, _, .loop h visits rounds⟩
  | .ret none => ⟨_, _, _, .retNull⟩
  | .ret (some value) => by
    cases h : value.eval .strict vars with
    | error e => exact ⟨_, _, _, .fault rfl h⟩
    | ok v => exact ⟨_, _, _, .ret h⟩
  | .throw value => by
    cases h : value.eval .strict vars with
    | error e => exact ⟨_, _, _, .fault rfl h⟩
    | ok v => exact ⟨_, _, _, .throw h⟩
  | .expr value => by
    cases h : value.eval .strict vars with
    | error e => exact ⟨_, _, _, .fault rfl h⟩
    | ok v => exact ⟨_, _, _, .expr h⟩

/-- Every block performs something. -/
theorem exists_performsAll (vars : Fields) :
    ∀ ss : List Stmt, ∃ n ending vars', PerformsAll ss vars n ending vars'
  | [] => ⟨_, _, _, .nil⟩
  | s :: rest => by
    obtain ⟨n, ending, vars', first⟩ := exists_performs vars s
    rcases next_or_stops ending with rfl | stops
    · obtain ⟨m, ending, vars'', further⟩ := exists_performsAll vars' rest
      exact ⟨_, _, _, .next first further⟩
    · exact ⟨_, _, _, .stop first stops⟩

/-- Every conditional statement chooses something, if it does where no branch is left. -/
theorem exists_chooses (vars : Fields) {otherwise : Option (List Stmt)}
    (last : ∃ n ending vars', Chooses [] otherwise vars n ending vars') :
    ∀ branches : List (Term × List Stmt),
      ∃ n ending vars', Chooses branches otherwise vars n ending vars'
  | [] => last
  | (condition, body) :: rest => by
    cases h : condition.eval .strict vars with
    | error e => exact ⟨_, _, _, .conditionFault h⟩
    | ok v =>
      cases truth : v.truthy with
      | true =>
        obtain ⟨n, ending, vars', block⟩ := exists_performsAll vars body
        exact ⟨_, _, _, .here h truth block⟩
      | false =>
        obtain ⟨n, ending, vars', further⟩ := exists_chooses vars last rest
        exact ⟨_, _, _, .later h truth further⟩

/-- Where no branch is left there is a last block or none. -/
theorem exists_otherwise (vars : Fields) :
    ∀ otherwise : Option (List Stmt), ∃ n ending vars', Chooses [] otherwise vars n ending vars'
  | none => ⟨_, _, _, .nothing⟩
  | some body => by
    obtain ⟨n, ending, vars', block⟩ := exists_performsAll vars body
    exact ⟨_, _, _, .otherwise block⟩

end

end

/-! ## Budgets -/

/-- Whether a budget lasts for a number of steps. -/
def Lasts (budget : Option Nat) (steps : Nat) : Prop :=
  ∀ limit, budget = some limit → steps ≤ limit

/-- A computation takes `n` steps under every budget: one that lasts does not show, and one that
does not is exhausted. -/
structure Budgeted (x : Option Nat → Frame → Outcome) (vars : Fields) (n : Nat) (ending : Ending)
    (vars' : Fields) : Prop where
  enough : ∀ budget taken, Lasts budget (taken + n) →
    x budget ⟨vars, taken⟩ = (ending, ⟨vars', taken + n⟩)
  short : ∀ limit taken, taken ≤ limit → limit < taken + n →
    (x (some limit) ⟨vars, taken⟩).1 = .error (.stepLimit limit)

namespace Budgeted

variable {x y : Option Nat → Frame → Outcome} {vars vars' vars'' : Fields} {n m : Nat}
  {ending : Ending}

/-- A computation that takes no steps. -/
theorem free (h : ∀ budget taken, x budget ⟨vars, taken⟩ = (ending, ⟨vars', taken⟩)) :
    Budgeted x vars 0 ending vars' where
  enough budget taken _ := h budget taken
  short _ _ within exhausted := absurd exhausted (Nat.not_lt.mpr within)

/-- With the same variables the computation is another one. -/
theorem congr (h : Budgeted y vars n ending vars')
    (same : ∀ budget taken, x budget ⟨vars, taken⟩ = y budget ⟨vars, taken⟩) :
    Budgeted x vars n ending vars' where
  enough budget taken lasts := by rw [same, h.enough budget taken lasts]
  short limit taken within exhausted := by rw [same, h.short limit taken within exhausted]

/-- A computation on changed variables. -/
theorem after (change : Fields → Fields) (h : Budgeted x (change vars) n ending vars') :
    Budgeted (fun budget frame => x budget { frame with vars := change frame.vars }) vars n ending
      vars' where
  enough := h.enough
  short := h.short

/-- A step before a computation. -/
theorem step (h : Budgeted x vars n ending vars') :
    Budgeted (fun budget frame =>
      match tick budget frame with
      | (.error e, frame) => (.error e, frame)
      | (.ok (), frame) => x budget frame) vars (n + 1) ending vars' where
  enough budget taken lasts := by
    have ticked : tick budget ⟨vars, taken⟩ = (.ok (), ⟨vars, taken + 1⟩) := by
      cases budget with
      | none => rfl
      | some limit =>
        have within := lasts limit rfl
        exact if_neg (by show ¬limit < taken + 1; omega)
    have same : taken + 1 + n = taken + (n + 1) := by omega
    rw [ticked, ← same]
    exact h.enough budget (taken + 1) (same ▸ lasts)
  short limit taken within exhausted := by
    by_cases last : limit < taken + 1
    · have ticked : tick (some limit) ⟨vars, taken⟩ =
          (.error (.stepLimit limit), ⟨vars, taken + 1⟩) := if_pos last
      rw [ticked]
    · have ticked : tick (some limit) ⟨vars, taken⟩ = (.ok (), ⟨vars, taken + 1⟩) := if_neg last
      rw [ticked]
      exact h.short limit (taken + 1) (by omega) (by omega)

/-- A computation that lets another one follow. -/
theorem next (first : Budgeted x vars n (.ok .next) vars')
    (further : Budgeted y vars' m ending vars'') :
    Budgeted (fun budget frame =>
      match x budget frame with
      | (.ok .next, frame) => y budget frame
      | ended => ended) vars (n + m) ending vars'' where
  enough budget taken lasts := by
    have early : Lasts budget (taken + n) := fun limit same => by
      have within := lasts limit same
      omega
    rw [first.enough budget taken early, ← Nat.add_assoc]
    exact further.enough budget (taken + n) (by rwa [Nat.add_assoc])
  short limit taken within exhausted := by
    by_cases early : limit < taken + n
    · have stopped := first.short limit taken within early
      generalize x (some limit) ⟨vars, taken⟩ = answer at stopped
      obtain ⟨ending, frame⟩ := answer
      cases stopped
      rfl
    · rw [first.enough (some limit) taken (fun _ same => by cases same; omega)]
      exact further.short limit (taken + n) (by omega) (by omega)

/-- A computation that stops. -/
theorem stop (first : Budgeted x vars n ending vars') (stops : Stops ending) :
    Budgeted (fun budget frame =>
      match x budget frame with
      | (.ok .next, frame) => y budget frame
      | ended => ended) vars n ending vars' where
  enough budget taken lasts := by
    rw [first.enough budget taken lasts]
    cases stops <;> rfl
  short limit taken within exhausted := by
    have stopped := first.short limit taken within exhausted
    generalize x (some limit) ⟨vars, taken⟩ = answer at stopped
    obtain ⟨ending, frame⟩ := answer
    cases stopped
    rfl

end Budgeted

variable [Regex.Library]

/-- A conditional statement behind its own step. -/
def choose (branches : List (Term × List Stmt)) (otherwise : Option (List Stmt))
    (budget : Option Nat) (frame : Frame) : Outcome :=
  match execBranches budget branches frame with
  | (.error e, frame) => (.error e, frame)
  | (.ok (some flow), frame) => (.ok flow, frame)
  | (.ok none, frame) => execOtherwise budget otherwise frame

/-- The computation of a branch is that of its block. -/
theorem choose_here {condition : Term} {v : Value} (body : List Stmt)
    (rest : List (Term × List Stmt))
    (otherwise : Option (List Stmt)) (budget : Option Nat) {frame : Frame}
    (h : condition.eval .strict frame.vars = .ok v) (true : v.truthy = true) :
    choose ((condition, body) :: rest) otherwise budget frame = execBlock budget body frame := by
  simp only [choose, execBranches, h, true, if_true]
  cases execBlock budget body frame with
  | mk ending frame => cases ending <;> rfl

theorem choose_later {condition : Term} {v : Value} (body : List Stmt)
    (rest : List (Term × List Stmt)) (otherwise : Option (List Stmt)) (budget : Option Nat)
    {frame : Frame} (h : condition.eval .strict frame.vars = .ok v) (false : v.truthy = false) :
    choose ((condition, body) :: rest) otherwise budget frame =
      choose rest otherwise budget frame := by
  simp only [choose, execBranches, h, false, Bool.false_eq_true, if_false]

theorem choose_fault {condition : Term} {e : ExprError} (body : List Stmt)
    (rest : List (Term × List Stmt)) (otherwise : Option (List Stmt)) (budget : Option Nat)
    {frame : Frame} (h : condition.eval .strict frame.vars = .error e) :
    choose ((condition, body) :: rest) otherwise budget frame = (.error e, frame) := by
  simp only [choose, execBranches, h]

/-- **What a block performs takes its steps under every budget.** By induction on the rules, with
the same for statements, conditional statements and loops. -/
theorem PerformsAll.budgeted {ss : List Stmt} {vars vars' : Fields} {n : Nat} {ending : Ending}
    (h : PerformsAll ss vars n ending vars') :
    Budgeted (fun budget => execBlock budget ss) vars n ending vars' := by
  induction h using PerformsAll.rec
    (motive_1 := fun s vars n ending vars' _ =>
      Budgeted (fun budget => exec budget s) vars n ending vars')
    (motive_3 := fun branches otherwise vars n ending vars' _ =>
      Budgeted (choose branches otherwise) vars n ending vars')
    (motive_4 := fun name body items vars n ending vars' _ =>
      Budgeted (fun budget => forEach budget name (fun frame => execBlock budget body frame) items)
        vars n ending vars') with
  | @fault s x _ e first h =>
    -- Whatever the statement is, behind its step it evaluates the expression.
    cases s with
    | branch branches otherwise => cases first
    | ret value =>
      cases value with
      | none => cases first
      | some value =>
        cases first
        exact .step (.free fun budget taken => by simp only [h])
    | declare | assign | loop | throw | expr =>
      cases first
      exact .step (.free fun budget taken => by simp only [h])
  | declare h => exact .step (.free fun budget taken => by simp only [h])
  | keyFault h keys => exact .step (.free fun budget taken => by simp only [h, keys])
  | @assign _ _ _ _ _ _ answer _ h resolved stored =>
    refine .step (.free fun budget taken => ?_)
    simp only [h, resolved, stored]
    cases answer <;> rfl
  | branch _ chosen => exact .step chosen
  | itemFault h fault => exact .step (.free fun budget taken => by simp only [h, fault])
  | loop h visits _ rounds =>
    exact .step (rounds.congr fun budget taken => by simp only [h, visits])
  | retNull => exact .step (.free fun budget taken => rfl)
  | ret h => exact .step (.free fun budget taken => by simp only [h])
  | throw h => exact .step (.free fun budget taken => by simp only [h])
  | expr h => exact .step (.free fun budget taken => by simp only [h])
  | nil => exact .free fun budget taken => rfl
  | next _ _ first further => exact .next first further
  | stop _ stops first => exact .stop first stops
  | conditionFault h => exact .free fun budget taken => choose_fault _ _ _ budget h
  | here h true _ block =>
    exact block.congr fun budget taken => choose_here _ _ _ budget h true
  | later h false _ further =>
    exact further.congr fun budget taken => choose_later _ _ _ budget h false
  | otherwise _ block => exact block
  | nothing => exact .free fun budget taken => rfl
  | noRound => exact .free fun budget taken => rfl
  | @round _ _ item _ _ n _ m _ _ _ _ block further =>
    rw [Nat.add_right_comm]
    exact .step (.next (.after (Fields.insert _ item) block) further)
  | @lastRound _ _ item _ _ _ _ _ _ stops block =>
    exact .step (.stop (.after (Fields.insert _ item) block) stops)

/-- A script performs one thing. -/
theorem PerformsAll.unique {ss : List Stmt} {vars vars₁ vars₂ : Fields} {n₁ n₂ : Nat}
    {ending₁ ending₂ : Ending} (h₁ : PerformsAll ss vars n₁ ending₁ vars₁)
    (h₂ : PerformsAll ss vars n₂ ending₂ vars₂) : n₁ = n₂ ∧ ending₁ = ending₂ ∧ vars₁ = vars₂ := by
  have unbounded (n : Nat) : Lasts none n := fun _ same => by cases same
  have same := (h₁.budgeted.enough none 0 (unbounded _)).symm.trans
    (h₂.budgeted.enough none 0 (unbounded _))
  simp only [Prod.mk.injEq, Frame.mk.injEq, Nat.zero_add] at same
  exact ⟨same.2.2, same.1, same.2.1⟩

/-! ## Whole scripts -/

/-- The number of steps at which budgets of a script begin to be enough, with what it comes to
then. -/
structure Threshold (program : Program) (bindings : Fields) (n : Nat) (ending : Ending) : Prop where
  performs : ∃ vars, PerformsAll program bindings n ending vars ∧
    runProgram none program bindings = (ending.map Flow.value, ⟨vars, n⟩)
  exhausted : ∀ limit, limit < n →
    (runProgram (some limit) program bindings).1 = .error (.stepLimit limit)
  enough : ∀ limit, n ≤ limit →
    (runProgram (some limit) program bindings).1 = (runProgram none program bindings).1

/-- Every script has its threshold. -/
theorem exists_threshold (program : Program) (bindings : Fields) :
    ∃ n ending, Threshold program bindings n ending := by
  obtain ⟨n, ending, vars, performs⟩ := exists_performsAll bindings program
  have budgeted := performs.budgeted
  have lasting (budget : Option Nat) (lasts : Lasts budget n) :
      runProgram budget program bindings = (ending.map Flow.value, ⟨vars, n⟩) := by
    have run := budgeted.enough budget 0 (by rwa [Nat.zero_add])
    rw [Nat.zero_add] at run
    simp only [runProgram, run]
    cases ending <;> rfl
  have free := lasting none fun _ same => by cases same
  refine ⟨n, ending, ⟨vars, performs, free⟩, fun limit less => ?_, fun limit within => ?_⟩
  · have stopped := budgeted.short limit 0 (Nat.zero_le _) (by rwa [Nat.zero_add])
    unfold runProgram
    generalize execBlock (some limit) program ⟨bindings, 0⟩ = answer at stopped
    obtain ⟨ending, frame⟩ := answer
    cases stopped
    rfl
  · rw [lasting (some limit) fun _ same => Option.some.inj same ▸ within, free]

/-- **The budget of a script is a threshold.** A source that is not read is refused alike under
every budget. A script that is read performs some number of steps without a budget, its statements
and the rounds of its loops. Every smaller budget is exhausted, and every other one gives what the
script comes to without a budget. So a larger budget changes nothing but the exhaustion of a smaller
one. -/
theorem run_threshold (source : String) (depth : Nat) (bindings : Fields) :
    match parseProgram source depth with
    | .error e => ∀ limit, run ⟨limit, depth⟩ source bindings = .error e
    | .ok program => ∃ n ending vars, PerformsAll program bindings n ending vars ∧
      runProgram none program bindings = (ending.map Flow.value, ⟨vars, n⟩) ∧
      (∀ limit, limit < n → run ⟨limit, depth⟩ source bindings = .error (.stepLimit limit)) ∧
      (∀ limit, n ≤ limit →
        run ⟨limit, depth⟩ source bindings = (runProgram none program bindings).1) ∧
      ∀ limit larger, limit ≤ larger →
        (∀ steps, run ⟨limit, depth⟩ source bindings ≠ .error (.stepLimit steps)) →
        run ⟨larger, depth⟩ source bindings = run ⟨limit, depth⟩ source bindings := by
  cases read : parseProgram source depth with
  | error e =>
    intro limit
    simp only [run, read]
  | ok program =>
    obtain ⟨n, ending, ⟨vars, performs, free⟩, exhausted, enough⟩ :=
      exists_threshold program bindings
    have runs (limit : Nat) :
        run ⟨limit, depth⟩ source bindings = (runProgram (some limit) program bindings).1 := by
      simp only [run, read]
    simp only [runs]
    refine ⟨n, ending, vars, performs, free, exhausted, enough, fun limit larger le kept => ?_⟩
    have within : n ≤ limit := Nat.le_of_not_lt fun less => kept limit (exhausted limit less)
    rw [enough limit within, enough larger (Nat.le_trans within le)]

end Automation.Script
