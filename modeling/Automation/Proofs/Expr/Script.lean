import Automation.Proofs.Expr.Built

/-!
# What scripts are made of

What holds of every statement that is put together from what the grammar reads (`Composed`) holds of
every statement of a script that it reads (`parseProgram_composed`). So what holds of every
expression that it reads, and of the parts of what is assigned to, holds of every expression in the
script (`parseProgram_made`).
-/

namespace Automation.Expr

/-! ## Statements -/

/-- A step of a path whose index a property holds of, or whose name is an identifier. -/
inductive PathSegment.Made (P : Term → Prop) : PathSegment → Prop where
  | field {x} (name : isIdentifier x = true) : Made P (.field x)
  | index {k} (key : P k) : Made P (.index k)

/-- A statement whose expressions a property holds of and whose names are identifiers; if it is a
conditional one, it has a branch. -/
inductive Stmt.Made (P : Term → Prop) : Stmt → Prop where
  | declare {x e} (name : isIdentifier x = true) (value : P e) : Made P (.declare x e)
  | assign {x path e} (name : isIdentifier x = true) (steps : ∀ s ∈ path, s.Made P) (value : P e) :
    Made P (.assign x path e)
  | branch {branches last} (some : branches ≠ []) (conditions : ∀ b ∈ branches, P b.1)
    (bodies : ∀ b ∈ branches, ∀ s ∈ b.2, Made P s)
    (otherwise : ∀ ss, last = Option.some ss → ∀ s ∈ ss, Made P s) : Made P (.branch branches last)
  | loop {x e body} (name : isIdentifier x = true) (items : P e) (h : ∀ s ∈ body, Made P s) :
    Made P (.loop x e body)
  | ret {value} (h : ∀ e, value = Option.some e → P e) : Made P (.ret value)
  | throw {e} (h : P e) : Made P (.throw e)
  | expr {e} (h : P e) : Made P (.expr e)

/-- A property of what can be said that its targets and indexes have too, and the value of a
declaration without one. -/
structure Inherited (P : Term → Prop) : Prop where
  sayable : ∀ {e}, P e → e.Sayable
  null : P (.literal .null)
  member : ∀ {e x}, P (.member e x) → P e
  index : ∀ {e i}, P (.index e i) → P e ∧ P i

/-- What is assigned to is made of the expression before the sign. -/
theorem assignTarget?_made {P : Term → Prop} (inherited : Inherited P) {e : Term} {x : String}
    {path : List PathSegment} (h : assignTarget? e = some (x, path)) (holds : P e) :
    isIdentifier x = true ∧ ∀ s ∈ path, s.Made P := by
  induction e using assignTarget?.induct generalizing x path with
  | case1 x' =>
    cases h
    cases inherited.sayable holds with
    | ident name => exact ⟨name, by simp⟩
  | case2 e property ih =>
    rw [assignTarget?, Option.map_eq_some_iff] at h
    obtain ⟨⟨x, front⟩, target, same⟩ := h
    cases same
    obtain ⟨name, steps⟩ := ih target (inherited.member holds)
    cases inherited.sayable holds with
    | member _ field =>
      refine ⟨name, fun s mem => ?_⟩
      rcases List.mem_append.mp mem with mem | mem
      · exact steps s mem
      · rw [List.mem_singleton.mp mem]
        exact .field field
  | case3 e i ih =>
    rw [assignTarget?, Option.map_eq_some_iff] at h
    obtain ⟨⟨x, front⟩, target, same⟩ := h
    cases same
    obtain ⟨rest, key⟩ := inherited.index holds
    obtain ⟨name, steps⟩ := ih target rest
    refine ⟨name, fun s mem => ?_⟩
    rcases List.mem_append.mp mem with mem | mem
    · exact steps s mem
    · rw [List.mem_singleton.mp mem]
      exact .index key
  | case4 e ident member index =>
    rw [assignTarget?] at h
    · cases h
    · exact ident
    · exact member
    · exact index

/-- What holds of every statement that is put together from names and expressions that are read and
from blocks that it holds of. -/
structure Composed (T : TokenKind → Prop) (P : Term → Prop) (Q : Stmt → Prop) : Prop where
  null : P (.literal .null)
  declare : ∀ {x e}, T (.ident x) → P e → Q (.declare x e)
  assign : ∀ {target x path e}, P target → assignTarget? target = some (x, path) → P e →
    Q (.assign x path e)
  branch : ∀ {branches last}, branches ≠ [] → (∀ b ∈ branches, P b.1) →
    (∀ b ∈ branches, ∀ s ∈ b.2, Q s) → (∀ ss, last = some ss → ∀ s ∈ ss, Q s) →
    Q (.branch branches last)
  loop : ∀ {x e body}, T (.ident x) → P e → (∀ s ∈ body, Q s) → Q (.loop x e body)
  ret : ∀ {value}, (∀ e, value = some e → P e) → Q (.ret value)
  throw : ∀ {e}, P e → Q (.throw e)
  expr : ∀ {e}, P e → Q (.expr e)

/-- Statements are made of what the grammar reads. -/
theorem Inherited.composed {P : Term → Prop} (inherited : Inherited P) :
    Composed TokenKind.Lexical P (Stmt.Made P) where
  null := inherited.null
  declare := .declare
  assign target path value :=
    let ⟨name, steps⟩ := assignTarget?_made inherited path target
    .assign name steps value
  branch := .branch
  loop := .loop
  ret := .ret
  throw := .throw
  expr := .expr

/-! ## Reading statements -/

section Reading

variable {T : TokenKind → Prop} {P : Term → Prop} {Q : Stmt → Prop} (composed : Composed T P Q)

theorem name_keeps (what : String) : Keeps T (name what) fun x => T (.ident x) := by
  intro ts x rest read kinds
  unfold name at read
  split at read
  next =>
    cases read
    exact ⟨kinds _ List.mem_cons_self, kinds.tail⟩
  next => cases read

theorem OfKinds.skipSemicolon {ts : List Token} (h : OfKinds T ts) :
    OfKinds T (Expr.skipSemicolon ts) := by
  unfold Expr.skipSemicolon
  split
  next => exact h.tail
  next => exact h

section Rules

variable {expression : List Token → Parse Term} (he : Keeps T expression P)
include he

include composed in
theorem declaration_keeps : Keeps T (declaration expression) Q := by
  intro ts s rest read kinds
  unfold declaration at read
  split at read
  next => cases read
  next x pos mid named =>
    obtain ⟨name, left⟩ := name_keeps _ named kinds
    split at read
    next => cases read
    next value =>
      cases read
      obtain ⟨holds, left⟩ := he value left.tail
      exact ⟨composed.declare name holds, left⟩
  next named =>
    cases read
    obtain ⟨name, left⟩ := name_keeps _ named kinds
    exact ⟨composed.declare name composed.null, left⟩

include composed in
theorem returning_keeps : Keeps T (returning expression) Q := by
  intro ts s rest read kinds
  have nothing {ts : List Token} (kinds : OfKinds T ts) : Q (.ret none) ∧ OfKinds T ts :=
    ⟨composed.ret (by simp), kinds⟩
  unfold returning at read
  split at read
  next =>
    cases read
    exact nothing kinds
  next =>
    cases read
    exact nothing kinds
  next =>
    cases read
    exact nothing kinds
  next =>
    split at read
    next => cases read
    next value =>
      cases read
      obtain ⟨holds, left⟩ := he value kinds
      exact ⟨composed.ret (by simpa using holds), left⟩

include composed in
theorem simpleStatement_keeps : Keeps T (simpleStatement expression) Q := by
  intro ts s rest read kinds
  unfold simpleStatement at read
  split at read
  next => cases read
  next assigned =>
    obtain ⟨whole, left⟩ := he assigned kinds
    split at read
    next => cases read
    next target =>
      split at read
      next => cases read
      next value =>
        cases read
        obtain ⟨holds, left⟩ := he value left.tail
        exact ⟨composed.assign whole target holds, left⟩
  next whole =>
    cases read
    obtain ⟨holds, left⟩ := he whole kinds
    exact ⟨composed.expr holds, left⟩

omit he in
theorem ended_keeps {read : List Token → Parse Stmt} (h : Keeps T read Q) :
    Keeps T (fun ts => ended (read ts)) Q := by
  intro ts s rest ends kinds
  dsimp only at ends
  unfold ended at ends
  split at ends
  next => cases ends
  next inner =>
    cases ends
    obtain ⟨made, left⟩ := h inner kinds
    exact ⟨made, left.skipSemicolon⟩

variable {block : List Token → Parse (List Stmt)} (hb : Keeps T block fun ss => ∀ s ∈ ss, Q s)
include hb

theorem guarded_keeps :
    Keeps T (guarded expression block) fun b => P b.1 ∧ ∀ s ∈ b.2, Q s := by
  intro ts b rest read kinds
  unfold guarded at read
  split at read
  next => cases read
  next condition =>
    obtain ⟨holds, left⟩ := he condition kinds
    split at read
    next => cases read
    next body =>
      cases read
      obtain ⟨all, left⟩ := hb body left
      exact ⟨⟨holds, all⟩, left⟩

/-- The further branches and the block of the last `else` are made as the first branch is. -/
theorem elseBranches_keeps (fuel : Nat) : Keeps T (elseBranches expression block fuel) fun bs =>
    (∀ b ∈ bs.1, P b.1 ∧ ∀ s ∈ b.2, Q s) ∧ ∀ ss, bs.2 = some ss → ∀ s ∈ ss, Q s := by
  induction fuel with
  | zero =>
    intro ts bs rest read kinds
    cases read
    exact ⟨by simp, kinds⟩
  | succ fuel ih =>
    intro ts bs rest read kinds
    rw [elseBranches.eq_def] at read
    dsimp only at read
    split at read
    next =>
      split at read
      next => cases read
      next first =>
        obtain ⟨made, left⟩ := guarded_keeps he hb first kinds.tail.tail
        split at read
        next => cases read
        next others =>
          cases read
          obtain ⟨⟨all, last⟩, left⟩ := ih others left
          refine ⟨⟨fun b mem => ?_, last⟩, left⟩
          rcases List.mem_cons.mp mem with rfl | mem
          · exact made
          · exact all b mem
    next =>
      split at read
      next => cases read
      next body =>
        cases read
        obtain ⟨all, left⟩ := hb body kinds.tail
        exact ⟨⟨by simp, fun ss same => Option.some.inj same ▸ all⟩, left⟩
    next =>
      cases read
      exact ⟨by simp, kinds⟩

include composed in
theorem conditional_keeps : Keeps T (conditional expression block) Q := by
  intro ts s rest read kinds
  unfold conditional at read
  split at read
  next => cases read
  next first =>
    obtain ⟨made, left⟩ := guarded_keeps he hb first kinds
    split at read
    next => cases read
    next others =>
      cases read
      obtain ⟨⟨all, last⟩, left⟩ := elseBranches_keeps he hb _ others left
      have every (b : Term × List Stmt) (mem : b ∈ _ :: _) : P b.1 ∧ ∀ s ∈ b.2, Q s :=
        (List.mem_cons.mp mem).elim (fun same => same ▸ made) (all b)
      exact ⟨composed.branch (by simp) (fun b mem => (every b mem).1)
        (fun b mem => (every b mem).2) last, left⟩

include composed in
theorem iteration_keeps : Keeps T (iteration expression block) Q := by
  intro ts s rest read kinds
  unfold iteration at read
  split at read
  next parenthesized ts' head =>
    have left : OfKinds T ts' := by
      split at head
      next =>
        cases head
        exact kinds.tail
      next =>
        cases head
        exact kinds
    dsimp only at read
    split at read
    next => cases read
    next named =>
      obtain ⟨name, left⟩ := name_keeps _ named (by
        split
        next => exact left.tail
        next => exact left)
      split at read
      next => cases read
      next items =>
        obtain ⟨holds, left⟩ := he items left.tail
        split at read
        next => cases read
        next ts'' closed =>
          have left : OfKinds T ts'' := by
            split at closed
            next =>
              split at closed
              next =>
                cases closed
                exact left.tail
              next => cases closed
            next =>
              cases closed
              exact left
          split at read
          next => cases read
          next body =>
            cases read
            obtain ⟨all, left⟩ := hb body left
            exact ⟨composed.loop name holds all, left⟩
    next => cases read

end Rules

/-- The statements of a block are those that the rule for statements answers. -/
theorem blockBody_keeps {statement : List Token → Parse Stmt}
    (h : Keeps T statement Q) (fuel : Nat) :
    Keeps T (blockBody statement fuel) fun ss => ∀ s ∈ ss, Q s := by
  induction fuel with
  | zero =>
    intro ts ss rest read
    cases read
  | succ fuel ih =>
    intro ts ss rest read kinds
    rw [blockBody] at read
    split at read
    next =>
      cases read
      exact ⟨by simp, kinds.drop⟩
    next => cases read
    next => exact ih read kinds.drop
    next =>
      split at read
      next => cases read
      next first =>
        obtain ⟨made, left⟩ := h first kinds
        split at read
        next => cases read
        next others =>
          cases read
          obtain ⟨all, left⟩ := ih others left
          exact ⟨by simpa using ⟨made, all⟩, left⟩

/-! ## Scripts -/

theorem statementBlock_keeps {d : Nat}
    (less : ∀ n, d = n + 1 → Keeps T (statement n) Q) :
    Keeps T (statementBlock d) fun ss => ∀ s ∈ ss, Q s := by
  intro ts ss rest read kinds
  rw [statementBlock.eq_def] at read
  split at read
  next => cases read
  next d =>
    split at read
    next => exact blockBody_keeps (less d rfl) _ read kinds.tail
    next =>
      split at read
      next => cases read
      next single =>
        cases read
        obtain ⟨made, left⟩ := less d rfl single kinds
        exact ⟨by simpa using made, left⟩

theorem statements_keep {d : Nat} (h : Keeps T (statement d) Q)
    (fuel : Nat) {ts : List Token} {ss : Program} (read : statements d fuel ts = .ok ss)
    (kinds : OfKinds T ts) : ∀ s ∈ ss, Q s := by
  induction fuel generalizing ts ss with
  | zero => cases read
  | succ fuel ih =>
    rw [statements] at read
    split at read
    next =>
      cases read
      simp
    next => exact ih read kinds.drop
    next =>
      split at read
      next => cases read
      next first =>
        obtain ⟨made, left⟩ := h first kinds
        split at read
        next => cases read
        next others =>
          cases read
          simpa using ⟨made, ih others left⟩

include composed in
theorem statement_keeps {d : Nat} (he : Keeps T (expression d 1) P)
    (hb : Keeps T (statementBlock d) fun ss => ∀ s ∈ ss, Q s) :
    Keeps T (statement d) Q := by
  intro ts s rest read kinds
  rw [statement.eq_def] at read
  split at read
  next => exact conditional_keeps composed he hb read kinds.tail
  next => exact iteration_keeps composed he hb read kinds.tail
  next => exact ended_keeps (declaration_keeps composed he) read kinds.tail
  next => exact ended_keeps (returning_keeps composed he) read kinds.tail
  next =>
    split at read
    next => cases read
    next value =>
      cases read
      obtain ⟨holds, left⟩ := he value kinds.tail
      exact ⟨composed.throw holds, left.skipSemicolon⟩
  next => exact ended_keeps (simpleStatement_keeps composed he) read kinds

include composed in
/-- What is read as expressions with no more levels than there are is what statements are put
together from. -/
theorem statement_composed (d : Nat) (he : ∀ n ≤ d, Keeps T (expression n 1) P) :
    Keeps T (statement d) Q := by
  induction d with
  | zero =>
    exact statement_keeps composed (he 0 (Nat.le_refl 0))
      (statementBlock_keeps fun n h => by cases h)
  | succ d ih =>
    refine statement_keeps composed (he (d + 1) (Nat.le_refl _)) ?_
    refine statementBlock_keeps fun n h => ?_
    cases h
    exact ih fun n le => he n (Nat.le_succ_of_le le)

include composed in
/-- **A script is put together from what the grammar reads** as expressions with no more levels than
its limit. -/
theorem parseProgram_composed {source : String} {limit : Nat} {program : Program}
    (kinds : ∀ ts, tokenize source = .ok ts → OfKinds T ts)
    (built : ∀ n ≤ limit, ∀ e, Builds T .expression n e → P e)
    (h : parseProgram source limit = .ok program) : ∀ s ∈ program, Q s := by
  have keeps (n : Nat) (le : n ≤ limit) : Keeps T (expression n 1) P := by
    intro ts e rest read kinds
    obtain ⟨whole, left⟩ := (sound n).expression 1 read kinds
    exact ⟨built n le e whole, left⟩
  unfold parseProgram at h
  split at h
  next => cases h
  next ts tokens =>
    cases read : statements limit (ts.length + 1) ts with
    | error e =>
      rw [read] at h
      cases h
    | ok ss =>
      rw [read] at h
      cases h
      exact statements_keep (statement_composed composed limit keeps) _ read (kinds ts tokens)

end Reading

/-- A script is made of what the grammar reads as expressions. -/
theorem parseProgram_made {P : Term → Prop} (inherited : Inherited P) {source : String}
    {limit : Nat} {program : Program}
    (built : ∀ n ≤ limit, ∀ e, Builds TokenKind.Lexical .expression n e → P e)
    (h : parseProgram source limit = .ok program) : ∀ s ∈ program, s.Made P :=
  parseProgram_composed inherited.composed (fun _ => tokenize_lexical) built h

end Automation.Expr
