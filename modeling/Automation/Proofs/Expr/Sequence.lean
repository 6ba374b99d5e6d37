import Mathlib
import Automation.Proofs.Expr.Continued
import Automation.Proofs.Expr.Extended

/-!
# One script behind another

Two scripts with a line end and a semicolon between them are read as the statements of the first one
and then those of the second one (`parseProgram_append`). A statement does not tell a semicolon behind
it from the end of the source, except that it may take the semicolon with it (`Passes`).
-/

namespace Automation.Expr

/-! ## Behind a statement -/

/-- Tokens that may stand behind a script: the end or a semicolon, and no further branch behind it. -/
structure Closing (tail : List Token) : Prop where
  head : (peek tail).kind = .eof ∨ (peek tail).kind = .semicolon
  noElse : (peek (skipSemicolon tail)).kind ≠ .kwElse

/-- What a statement leaves before the end of a source and before a tail. At the end it may have taken
the semicolon of the tail. -/
inductive Passes (tail : List Token) : List Token → List Token → Prop where
  | inside {ts ts' : List Token} (h : Extends tail ts ts') : Passes tail ts ts'
  | skipped (stop : Nat) : Passes tail [⟨.eof, stop⟩] (skipSemicolon tail)

/-- Nothing that a rule for statements reads before an end it does not read before a tail. -/
def Passable (tail : List Token) (rule : List Token → Parse α) : Prop :=
  ∀ {ts ts'}, Extends tail ts ts' → Repeats (Passes tail) (rule ts) (rule ts')

namespace Closing

variable {tail : List Token} (closing : Closing tail)
include closing

theorem ends : Ends tail := by
  rcases closing.head with same | same <;> exact ⟨by rw [same]; rfl, by rw [same]; rfl⟩

/-- A tail begins with no other token. -/
theorem head_ne (kind : TokenKind) (eof : kind ≠ .eof) (semicolon : kind ≠ .semicolon) :
    (peek tail).kind ≠ kind := by
  rintro rfl
  rcases closing.head with same | same
  · exact eof same
  · exact semicolon same

theorem extending (d : Nat) : Extending tail d :=
  Expr.extending closing.ends (closing.head_ne _ nofun nofun) d

end Closing

section Rules

variable {tail : List Token}

/-- The first token is of a kind in both, but for the end. -/
theorem Extends.peek_ne {ts ts' : List Token} (h : Extends tail ts ts') (closing : Closing tail)
    {kind : TokenKind} (eof : kind ≠ .eof) (semicolon : kind ≠ .semicolon)
    (other : (peek ts).kind ≠ kind) : (peek ts').kind ≠ kind := by
  rcases h.peek_kind with same | ⟨-, rfl⟩
  · rwa [same]
  · exact closing.head_ne kind eof semicolon

theorem skipSemicolon_passes {ts ts' : List Token} (h : Extends tail ts ts') :
    Passes tail (skipSemicolon ts) (skipSemicolon ts') := by
  cases h with
  | last stop => exact .skipped stop
  | @cons kind pos pos' ts ts' inside h =>
    cases kind with
    | semicolon => exact .inside h
    | _ => exact .inside (.cons pos pos' inside h)

theorem ended_passes {r r' : Parse Stmt} (h : Repeats (Extends tail) r r') :
    Repeats (Passes tail) (ended r) (ended r') := by
  cases h with
  | error e => exact .error _ _
  | ok s h => exact .ok s (skipSemicolon_passes h)

theorem name_extended (what : String) : Extendable tail (name what) := by
  intro ts ts' h
  cases h with
  | last stop => exact .error _ _
  | @cons kind pos pos' ts ts' inside h =>
    cases kind with
    | ident x => exact .ok x h
    | _ => exact .error _ _

section Expressions

variable (closing : Closing tail) {expression : List Token → Parse Term}
  (h : Extendable tail expression)
include closing h

theorem declaration_extended : Extendable tail (declaration expression) := by
  intro ts ts' extends_
  unfold declaration
  refine (name_extended "variable name" extends_).andThen (fun e failed => by rw [failed]) ?_
  intro x rest rest' read read' extends_
  rw [read, read']
  cases extends_ with
  | last stop =>
    dsimp only
    split
    next failed => cases failed
    next assigned =>
      cases assigned
      exact absurd rfl (closing.head_ne .assign nofun nofun)
    next value =>
      cases value
      exact .ok _ (.last stop)
  | @cons kind pos pos' rest rest' inside extends_ =>
    cases kind with
    | assign =>
      refine (h extends_).andThen (fun e failed => by simp only [failed]) ?_
      intro e rest rest' read read' extends_
      simp only [read, read']
      exact .ok _ extends_
    | _ => exact .ok _ (.cons pos pos' inside extends_)

theorem returning_extended : Extendable tail (returning expression) := by
  intro ts ts' extends_
  unfold returning
  cases extends_ with
  | last stop =>
    rcases closing.head with same | same
    all_goals
      rw [same]
      exact .ok _ (.last stop)
  | @cons kind pos pos' ts ts' inside extends_ =>
    cases kind with
    | semicolon | rightBrace => exact .ok _ (.cons pos pos' inside extends_)
    | eof => exact absurd rfl inside
    | _ =>
      refine (h (.cons pos pos' inside extends_)).andThen (fun e failed => ?_) ?_
      · simp only [peek, List.headD_cons, failed]
      intro e rest rest' read read' extends_
      simp only [peek, List.headD_cons, read, read']
      exact .ok _ extends_

theorem simpleStatement_extended : Extendable tail (simpleStatement expression) := by
  intro ts ts' extends_
  unfold simpleStatement
  refine (h extends_).andThen (fun e failed => by rw [failed]) ?_
  intro e rest rest' read read' extends_
  rw [read, read']
  cases extends_ with
  | last stop =>
    dsimp only
    split
    next failed => cases failed
    next assigned =>
      cases assigned
      exact absurd rfl (closing.head_ne .assign nofun nofun)
    next value =>
      cases value
      exact .ok _ (.last stop)
  | @cons kind pos pos' rest rest' inside extends_ =>
    cases kind with
    | assign =>
      dsimp only
      split
      next => exact .error _ _
      next =>
        refine (h extends_).andThen (fun e failed => by simp only [failed]) ?_
        intro e rest rest' read read' extends_
        simp only [read, read']
        exact .ok _ extends_
    | _ => exact .ok _ (.cons pos pos' inside extends_)

end Expressions

/-! ## Blocks and branches -/

section Steps

variable {expression : List Token → Parse Term} {block : List Token → Parse (List Stmt)}
  {fuel : Nat} {ts : List Token}

theorem elseBranches_stop (noElse : (peek ts).kind ≠ .kwElse) :
    elseBranches expression block fuel ts = .ok (([], none), ts) := by
  cases fuel with
  | zero => rfl
  | succ fuel =>
    rcases ts with _ | ⟨⟨kind, pos⟩, ts⟩
    · rfl
    cases kind with
    | kwElse => exact absurd rfl noElse
    | _ => rfl

theorem elseBranches_else {pos : Nat} (noIf : (peek ts).kind ≠ .kwIf) :
    elseBranches expression block (fuel + 1) (⟨.kwElse, pos⟩ :: ts) =
      match block ts with
      | .error e => .error e
      | .ok (body, ts) => .ok (([], some body), ts) := by
  rcases ts with _ | ⟨⟨kind, pos⟩, ts⟩
  · rfl
  cases kind with
  | kwIf => exact absurd rfl noIf
  | _ => rfl

end Steps

section Blocks

variable (closing : Closing tail) {d : Nat}
  (h : Passable tail fun ts => statementBlock d ts)
include closing h

theorem guarded_passes :
    Passable tail (guarded (expression d 1) fun ts => statementBlock d ts) := by
  intro ts ts' extends_
  unfold guarded
  refine ((closing.extending d).expression 1 extends_).andThen (fun e failed => by rw [failed]) ?_
  intro condition rest rest' read read' extends_
  simp only [read, read']
  refine (h extends_).andThen (fun e failed => by simp only [failed]) ?_
  intro body rest rest' read read' passes
  simp only [read, read']
  exact .ok _ passes

omit closing h in
theorem block_shorter {ts rest : List Token} {body : List Stmt}
    (read : statementBlock d ts = .ok (body, rest)) : rest.length < ts.length :=
  (settlingStatements ts).block.holds read

omit closing h in
theorem statement_shorter {ts rest : List Token} {s : Stmt}
    (read : statement d ts = .ok (s, rest)) : rest.length < ts.length :=
  (settlingStatements ts).statement.holds read

omit closing h in
theorem guarded_shorter {ts rest : List Token} {b : Term × List Stmt}
    (read : guarded (expression d 1) (fun ts => statementBlock d ts) ts = .ok (b, rest)) :
    rest.length < ts.length := by
  unfold guarded at read
  split at read
  next => cases read
  next first =>
    split at read
    next => cases read
    next second =>
      cases read
      exact Nat.lt_trans (block_shorter second) (expression_shorter first)

/-- The branches of a statement end where no further one follows, which is so behind a tail too. -/
theorem elseBranches_passes (fuel : Nat) {fuel' : Nat} {ts ts' : List Token}
    (passes : Passes tail ts ts') (enough : ts.length < fuel) (enough' : ts'.length < fuel') :
    Repeats (Passes tail)
      (elseBranches (expression d 1) (fun ts => statementBlock d ts) fuel ts)
      (elseBranches (expression d 1) (fun ts => statementBlock d ts) fuel' ts') := by
  induction fuel generalizing ts ts' fuel' with
  | zero => exact absurd enough (Nat.not_lt_zero _)
  | succ fuel ih =>
    obtain ⟨fuel', rfl⟩ : ∃ n, fuel' = n + 1 := ⟨fuel' - 1, by omega⟩
    cases passes with
    | skipped stop =>
      have last : (peek [(⟨.eof, stop⟩ : Token)]).kind ≠ .kwElse := nofun
      rw [elseBranches_stop last, elseBranches_stop closing.noElse]
      exact .ok _ (.skipped stop)
    | inside extends_ =>
      by_cases last : (peek ts).kind ≠ .kwElse
      · rw [elseBranches_stop last,
          elseBranches_stop (extends_.peek_ne closing nofun nofun last)]
        exact .ok _ (.inside extends_)
      cases extends_ with
      | last stop => exact (last nofun).elim
      | @cons kind pos pos' ts ts' _ extends_ =>
        obtain rfl : kind = .kwElse := not_not.mp last
        by_cases otherwise : (peek ts).kind ≠ .kwIf
        · rw [elseBranches_else otherwise,
            elseBranches_else (extends_.peek_ne closing nofun nofun otherwise)]
          refine (h extends_).andThen (fun e failed => by simp only [failed]) ?_
          intro body rest rest' read read' passes
          simp only [read, read']
          exact .ok _ passes
        cases extends_ with
        | last stop => exact (otherwise nofun).elim
        | @cons kind _ _ ts ts' _ extends_ =>
          obtain rfl : kind = .kwIf := not_not.mp otherwise
          simp only [elseBranches]
          refine (guarded_passes closing h extends_).andThen
            (fun e failed => by simp only [failed]) ?_
          intro b mid mid' first first' passes
          simp only [List.length_cons] at enough enough'
          have less : mid.length < fuel := Nat.lt_trans (guarded_shorter first) (by omega)
          have less' : mid'.length < fuel' := Nat.lt_trans (guarded_shorter first') (by omega)
          simp only [first, first']
          refine (ih passes less less').andThen (fun e failed => by simp only [failed]) ?_
          rintro ⟨bs, block?⟩ rest rest' read read' passes
          simp only [read, read']
          exact .ok _ passes

theorem conditional_passes :
    Passable tail (conditional (expression d 1) fun ts => statementBlock d ts) := by
  intro ts ts' extends_
  unfold conditional
  refine (guarded_passes closing h extends_).andThen (fun e failed => by rw [failed]) ?_
  intro b rest rest' read read' passes
  simp only [read, read']
  refine (elseBranches_passes closing h (rest.length + 1) passes (Nat.lt_succ_self _)
    (Nat.lt_succ_self _)).andThen (fun e failed => by simp only [failed]) ?_
  rintro ⟨bs, otherwise⟩ rest rest' read read' passes
  simp only [read, read']
  exact .ok _ passes

omit h closing in
theorem closeHead_extended (parenthesized : Bool) {ts ts' : List Token}
    (extends_ : Extends tail ts ts') :
    (∃ e, closeHead parenthesized ts = .error e) ∨ ∃ rest rest', Extends tail rest rest' ∧
      closeHead parenthesized ts = .ok rest ∧ closeHead parenthesized ts' = .ok rest' := by
  cases parenthesized with
  | false => exact .inr ⟨ts, ts', extends_, rfl, rfl⟩
  | true =>
    cases extends_ with
    | last stop => exact .inl ⟨_, rfl⟩
    | @cons kind pos pos' ts ts' _ extends_ =>
      cases kind with
      | rightParen => exact .inr ⟨ts, ts', extends_, rfl, rfl⟩
      | _ => exact .inl ⟨_, rfl⟩

theorem loopFrom_passes (parenthesized : Bool) :
    Passable tail (loopFrom parenthesized (expression d 1) fun ts => statementBlock d ts) := by
  intro ts ts' extends_
  unfold loopFrom
  refine (name_extended "loop variable" extends_).andThen (fun e failed => by rw [failed]) ?_
  intro x rest rest' read read' extends_
  rw [read, read']
  cases extends_ with
  | last stop => exact .error _ _
  | @cons kind pos pos' rest rest' _ extends_ =>
    cases kind with
    | kwIn =>
      refine ((closing.extending d).expression 1 extends_).andThen
        (fun e failed => by simp only [failed]) ?_
      intro iterable rest rest' read read' extends_
      simp only [read, read']
      rcases closeHead_extended parenthesized extends_ with
        ⟨e, failed⟩ | ⟨rest, rest', extends_, closed, closed'⟩
      · simp only [failed]
        exact .error _ _
      simp only [closed, closed']
      refine (h extends_).andThen (fun e failed => by simp only [failed]) ?_
      intro body rest rest' read read' passes
      simp only [read, read']
      exact .ok _ passes
    | _ => exact .error _ _

omit h closing in
/-- The head of a loop begins alike. -/
theorem iteration_extended {ts ts' : List Token} (extends_ : Extends tail ts ts')
    (expression : List Token → Parse Term) (block : List Token → Parse (List Stmt)) :
    (∃ e, iteration expression block ts = .error e) ∨
      ∃ parenthesized mid mid', Extends tail mid mid' ∧
        iteration expression block ts = loopFrom parenthesized expression block mid ∧
          iteration expression block ts' = loopFrom parenthesized expression block mid' := by
  cases extends_ with
  | last stop => exact .inl ⟨_, rfl⟩
  | @cons kind pos pos' ts ts' inside extends_ =>
    cases kind with
    | kwLet => exact .inr ⟨false, ts, ts', extends_, rfl, rfl⟩
    | leftParen =>
      cases extends_ with
      | last stop => exact .inl ⟨_, rfl⟩
      | @cons kind pos pos' ts ts' inside extends_ =>
        cases kind with
        | kwLet => exact .inr ⟨true, ts, ts', extends_, rfl, rfl⟩
        | _ => exact .inr ⟨true, _, _, .cons pos pos' inside extends_, rfl, rfl⟩
    | _ => exact .inr ⟨false, _, _, .cons pos pos' inside extends_, rfl, rfl⟩

theorem iteration_passes :
    Passable tail (iteration (expression d 1) fun ts => statementBlock d ts) := by
  intro ts ts' extends_
  rcases iteration_extended extends_ (expression d 1) (fun ts => statementBlock d ts) with
    ⟨e, failed⟩ | ⟨parenthesized, mid, mid', extends_, same, same'⟩
  · rw [failed]
    exact .error _ _
  · rw [same, same']
    exact loopFrom_passes closing h parenthesized extends_

end Blocks

/-! ## Statements -/

/-- A block is closed before the end of a source, so its statements leave what is inside. -/
theorem blockBody_extended {d : Nat} (h : Passable tail fun ts => statement d ts) (fuel : Nat)
    {fuel' : Nat} {ts ts' : List Token} (extends_ : Extends tail ts ts')
    (enough : ts'.length < fuel') :
    Repeats (Extends tail) (blockBody (fun ts => statement d ts) fuel ts)
      (blockBody (fun ts => statement d ts) fuel' ts') := by
  induction fuel generalizing ts ts' fuel' with
  | zero => exact .error _ _
  | succ fuel ih =>
    obtain ⟨fuel', rfl⟩ : ∃ n, fuel' = n + 1 := ⟨fuel' - 1, by omega⟩
    cases extends_ with
    | last stop => exact .error _ _
    | @cons kind pos pos' ts ts' inside extends_ =>
      have shorter : ts'.length < fuel' := Nat.lt_of_succ_lt_succ enough
      cases kind with
      | rightBrace => exact .ok _ extends_
      | eof => exact absurd rfl inside
      | semicolon => exact (ih extends_ shorter :)
      | _ =>
        simp only [blockBody, peek, List.headD_cons]
        refine (h (.cons pos pos' inside extends_)).andThen (fun e failed => by simp only [failed]) ?_
        intro s mid mid' first first' passes
        have less : mid'.length < fuel' := by
          have := statement_shorter first'
          rw [List.length_cons] at this
          omega
        simp only [first, first']
        cases passes with
        | skipped stop =>
          cases fuel <;> exact .error _ _
        | inside extends_ =>
          refine (ih extends_ less).andThen (fun e failed => by simp only [failed]) ?_
          intro ss rest rest' read read' extends_
          simp only [read, read']
          exact .ok _ extends_

section Statements

variable (closing : Closing tail) {d : Nat}
include closing

/-- A statement with a block behind its keyword reads the same before a tail if the block does. -/
theorem statement_passes (h : Passable tail fun ts => statementBlock d ts) :
    Passable tail fun ts => statement d ts := by
  have expressions : Extendable tail (expression d 1) := (closing.extending d).expression 1
  intro ts ts' extends_
  cases extends_ with
  | last stop =>
    obtain ⟨e, failed⟩ := expression_end d 1 stop
    dsimp only
    rw [statement.eq_def]
    simp only [simpleStatement, failed]
    exact .error _ _
  | @cons kind pos pos' ts ts' inside extends_ =>
    dsimp only
    rw [statement.eq_def, statement.eq_def]
    cases kind with
    | kwIf => exact conditional_passes closing h extends_
    | kwFor => exact iteration_passes closing h extends_
    | kwLet => exact ended_passes (declaration_extended closing expressions extends_)
    | kwReturn => exact ended_passes (returning_extended closing expressions extends_)
    | kwThrow =>
      refine (expressions extends_).andThen (fun e failed => by simp only [failed]) ?_
      intro e rest rest' read read' extends_
      simp only [read, read']
      exact ended_passes (.ok _ extends_)
    | _ =>
      exact ended_passes
        (simpleStatement_extended closing expressions (.cons pos pos' inside extends_))

omit closing in
theorem statementBlock_single {ts : List Token} (plain : (peek ts).kind ≠ .leftBrace) :
    statementBlock (d + 1) ts =
      match statement d ts with
      | .error e => .error e
      | .ok (s, ts) => .ok ([s], ts) := by
  rw [statementBlock.eq_def]
  rcases ts with _ | ⟨⟨kind, pos⟩, ts⟩
  · rfl
  cases kind with
  | leftBrace => exact absurd rfl plain
  | _ => rfl

/-- A block between braces or a single statement reads the same before a tail. -/
theorem statementBlock_passes (h : Passable tail fun ts => statement d ts) :
    Passable tail fun ts => statementBlock (d + 1) ts := by
  intro ts ts' extends_
  dsimp only
  by_cases single : (peek ts).kind ≠ .leftBrace
  · rw [statementBlock_single single,
      statementBlock_single (extends_.peek_ne closing nofun nofun single)]
    refine (h extends_).andThen (fun e failed => by simp only [failed]) ?_
    intro s rest rest' read read' passes
    simp only [read, read']
    exact .ok _ passes
  cases extends_ with
  | last stop => exact (single nofun).elim
  | @cons kind pos pos' ts ts' _ extends_ =>
    obtain rfl : kind = .leftBrace := not_not.mp single
    rw [statementBlock.eq_def, statementBlock.eq_def]
    refine (blockBody_extended h (ts.length + 1) extends_ (Nat.lt_succ_self _)).andThen
      (fun e failed => failed) ?_
    intro body rest rest' read read' extends_
    simp only [read, read']
    exact .ok _ (.inside extends_)

/-- **Statements and blocks read the same before a tail.** -/
theorem passing (d : Nat) : Passable tail (fun ts => statement d ts) ∧
    Passable tail fun ts => statementBlock d ts := by
  induction d with
  | zero =>
    have none : Passable tail fun ts => statementBlock 0 ts := by
      intro ts ts' extends_
      dsimp only
      rw [statementBlock.eq_def]
      exact .error _ _
    exact ⟨statement_passes closing none, none⟩
  | succ d ih =>
    have block : Passable tail fun ts => statementBlock (d + 1) ts :=
      statementBlock_passes closing ih.1
    exact ⟨statement_passes closing block, block⟩

end Statements

/-! ## Scripts -/

section Scripts

variable (closing : Closing tail) {d : Nat} {further : Program}
  (goesOn : ∀ fuel, (skipSemicolon tail).length < fuel →
    statements d fuel (skipSemicolon tail) = .ok further)
include closing goesOn

/-- The statements of a tail are those behind its semicolon. -/
theorem statements_tail {fuel : Nat} (enough : tail.length < fuel) :
    statements d fuel tail = .ok further := by
  rcases tail with _ | ⟨⟨kind, pos⟩, rest⟩
  · exact goesOn fuel enough
  rcases closing.head with same | same
  · obtain rfl : kind = .eof := same
    exact goesOn fuel enough
  · obtain rfl : kind = .semicolon := same
    obtain ⟨fuel, rfl⟩ : ∃ n, fuel = n + 1 := ⟨fuel - 1, by omega⟩
    exact goesOn fuel (Nat.lt_of_succ_lt_succ enough)

/-- **The statements before a tail are read, and then those of the tail.** -/
theorem statements_passed (fuel : Nat) {fuel' : Nat} {ts ts' : List Token} {ss : Program}
    (passes : Passes tail ts ts') (enough : ts'.length < fuel')
    (read : statements d fuel ts = .ok ss) : statements d fuel' ts' = .ok (ss ++ further) := by
  induction fuel generalizing ts ts' fuel' ss with
  | zero => cases read
  | succ fuel ih =>
    cases passes with
    | skipped stop =>
      cases read
      exact goesOn fuel' enough
    | inside extends_ =>
      cases extends_ with
      | last stop =>
        cases read
        exact statements_tail closing goesOn enough
      | @cons kind pos pos' ts ts' inside extends_ =>
        obtain ⟨fuel', rfl⟩ : ∃ n, fuel' = n + 1 := ⟨fuel' - 1, by omega⟩
        have shorter : ts'.length < fuel' := Nat.lt_of_succ_lt_succ enough
        have whole := (passing closing d).1 (.cons pos pos' inside extends_)
        cases kind with
        | eof => exact absurd rfl inside
        | semicolon => exact (ih (.inside extends_) shorter read :)
        | _ =>
          simp only [statements, peek, List.headD_cons] at read ⊢
          split at read
          next => cases read
          next first =>
            split at read
            next => cases read
            next others =>
              cases read
              obtain ⟨rest', first', passes⟩ := whole.of_ok first
              have less : rest'.length < fuel' := by
                have := statement_shorter first'
                rw [List.length_cons] at this
                omega
              simp only [first', ih passes less others]
              rfl

end Scripts

end Rules

/-! ## Sources -/

/-- A script does not begin with a further branch. -/
theorem statements_head {d fuel : Nat} {ts : List Token} {ss : Program}
    (read : statements d fuel ts = .ok ss) : (peek ts).kind ≠ .kwElse := by
  rcases ts with _ | ⟨⟨kind, pos⟩, ts⟩
  · exact nofun
  rintro rfl
  cases fuel with
  | zero => cases read
  | succ fuel =>
    have none : ∃ e, expression d 1 (⟨.kwElse, pos⟩ :: ts) = .error e := by
      rw [expression.eq_def]
      cases d with
      | zero => exact ⟨_, rfl⟩
      | succ d =>
        dsimp only
        rw [operand.eq_def]
        exact ⟨_, rfl⟩
    obtain ⟨e, failed⟩ := none
    have refused : statement d (⟨.kwElse, pos⟩ :: ts) = .error e := by
      rw [statement.eq_def]
      simp only [simpleStatement, failed]
      rfl
    simp only [statements, peek, List.headD_cons, refused] at read
    cases read

/-- Where the tokens of a script stand does not matter, nor how many more of them there may be. -/
theorem statements_elsewhere {d fuel : Nat} {ts ts' : List Token} {ss : Program}
    (terminated : Terminated ts) (terminated' : Terminated ts')
    (same : ts'.map Token.kind = ts.map Token.kind) (read : statements d fuel ts = .ok ss)
    {fuel' : Nat} (enough : ts'.length < fuel') : statements d fuel' ts' = .ok ss := by
  obtain ⟨front, stop, rfl, inside⟩ := terminated
  obtain ⟨front', stop', rfl, -⟩ := terminated'
  have closing : Closing [(⟨.eof, stop'⟩ : Token)] := ⟨.inl rfl, nofun⟩
  have fronts : front'.map Token.kind = front.map Token.kind := by simpa using same
  have last (fuel : Nat) (enough : [(⟨.eof, stop'⟩ : Token)].length < fuel) :
      statements d fuel [⟨.eof, stop'⟩] = .ok [] := by
    obtain ⟨fuel, rfl⟩ : ∃ n, fuel = n + 1 := ⟨fuel - 1, by omega⟩
    rfl
  have whole := statements_passed closing last fuel (.inside (.of_kinds fronts inside)) enough read
  rwa [List.append_nil] at whole

theorem tokens_of_parseProgram {source : String} {limit : Nat} {ss : Program}
    (read : parseProgram source limit = .ok ss) :
    ∃ ts, scan 0 source.toList = .ok ts ∧ statements limit (ts.length + 1) ts = .ok ss := by
  unfold parseProgram at read
  split at read
  next => cases read
  next ts tokens =>
    refine ⟨ts, tokens, ?_⟩
    cases answer : statements limit (ts.length + 1) ts with
    | error e =>
      rw [answer] at read
      cases read
    | ok ss' =>
      rw [answer] at read
      cases read
      rfl

/-- What stands behind a line end and a semicolon has the tokens that it has alone. -/
theorem scan_behind_semicolon {cs : List Char} {ts : List Token} (tokens : scan 0 cs = .ok ts)
    (pos : Nat) :
    ∃ pos' further, scan pos ('\n' :: ';' :: cs) = .ok (⟨.semicolon, pos'⟩ :: further) ∧
      Terminated further ∧ further.map Token.kind = ts.map Token.kind := by
  have mark : lexeme ';' cs = .ok ⟨.semicolon, 0⟩ := rfl
  have semicolon := scan_mark (by decide) (by decide) mark (pos + '\n'.utf8Size)
  obtain ⟨further, moved, same⟩ :=
    scan_elsewhere tokens (pos + '\n'.utf8Size + byteSize [';'])
  rw [moved] at semicolon
  exact ⟨_, further, (scan_blank (by decide) pos _).trans semicolon, scan_terminated moved, same⟩

/-- **Two scripts with a line end and a semicolon between them are read one after the other**, at the
same limit, if the first one does not end inside a comment that has to be closed. -/
theorem parseProgram_append {p q : String} {limit : Nat} {ss ss' : Program}
    (first : parseProgram p limit = .ok ss) (second : parseProgram q limit = .ok ss')
    (closed : ¬EndsInBlock p.toList) :
    parseProgram (p ++ "\n;" ++ q) limit = .ok (ss ++ ss') := by
  obtain ⟨ts, tokens, read⟩ := tokens_of_parseProgram first
  obtain ⟨ts', tokens', read'⟩ := tokens_of_parseProgram second
  obtain ⟨front, split, goesOn⟩ := scan_continued parting_lineEnd tokens closed (.inl rfl)
  obtain ⟨pos, further, behind, terminated, same⟩ :=
    scan_behind_semicolon tokens' (0 + byteSize p.toList)
  have whole : tokenize (p ++ "\n;" ++ q) = .ok (front ++ ⟨.semicolon, pos⟩ :: further) := by
    have chars : (p ++ "\n;" ++ q).toList = p.toList ++ '\n' :: ';' :: q.toList := by
      simp [String.toList_append]
    rw [tokenize, chars, goesOn, behind]
    rfl
  -- The second script is read behind the semicolon as it is alone.
  have alone {fuel : Nat} (enough : further.length < fuel) :
      statements limit fuel further = .ok ss' :=
    statements_elsewhere (scan_terminated tokens') terminated same read' enough
  have closing : Closing (⟨.semicolon, pos⟩ :: further) :=
    ⟨.inr rfl, statements_head (alone (Nat.lt_succ_self _))⟩
  obtain ⟨front', stop, split', inside⟩ := scan_terminated tokens
  obtain ⟨rfl, -⟩ := List.append_inj' (split.symm.trans split') rfl
  have extends_ : Extends (⟨.semicolon, pos⟩ :: further) ts (front ++ ⟨.semicolon, pos⟩ :: further) :=
    split ▸ .of_kinds rfl inside
  have joint := statements_passed closing (fun fuel enough => alone enough) (ts.length + 1)
    (.inside extends_) (Nat.lt_succ_self _) read
  simp only [parseProgram, whole, joint]
  rfl

/-- A script that ends with a branch without a block, a bare return and a comment, and one that
begins with a declaration. -/
theorem parseProgram_append_comment :
    let p := "if ( a ) return\n// none"
    let q := "let b = [ a ]"
    let ss : Program := [.branch [(.ident "a", [.ret none])] none]
    let ss' : Program := [.declare "b" (.array [.ident "a"])]
    parseProgram p 8 = .ok ss ∧ parseProgram q 8 = .ok ss' ∧ ¬EndsInBlock p.toList ∧
      parseProgram (p ++ "\n;" ++ q) 8 = .ok (ss ++ ss') := by
  intro p q ss ss'
  have first : parseProgram p 8 = .ok ss := by
    let words : List Word := [.mark .kwIf "if" (by decide), .leftParen, .ident ⟨"a", by decide⟩,
      .rightParen, .mark .kwReturn "return" (by decide)]
    obtain ⟨ts, stop, tokens, spelled⟩ := (spaced_joined words).scan 0
    obtain ⟨front, split, goesOn⟩ := scan_continued parting_lineEnd tokens
      (not_endsInBlock (by decide +kernel)) (.inl rfl)
    simp only [words, Spelled.cons_iff, Spelled.nil_iff] at spelled
    obtain ⟨a, _, rfl, b, _, rfl, c, _, rfl, d, _, rfl, e, _, rfl, rfl⟩ := spelled
    have fronts := congrArg List.dropLast split
    rw [List.dropLast_concat] at fronts
    subst fronts
    have comment : Trivia true ('\n' :: "// none".toList) :=
      .blank (by decide) (.openLine rfl (by decide))
    have tokens := goesOn "// none".toList
    rw [(Laid.last comment).scan] at tokens
    have tokens : tokenize p = .ok _ := (congrArg (scan 0) (by decide +kernel)).trans tokens
    rw [parseProgram, tokens]
    cbv
  have second : parseProgram q 8 = .ok ss' := by
    let words : List Word := [.mark .kwLet "let" (by decide), .ident ⟨"b", by decide⟩,
      .mark .assign "=" (by decide), .leftBracket, .ident ⟨"a", by decide⟩, .rightBracket]
    obtain ⟨ts, stop, tokens, spelled⟩ := (spaced_joined words).scan 0
    simp only [words, Spelled.cons_iff, Spelled.nil_iff] at spelled
    obtain ⟨a, _, rfl, b, _, rfl, c, _, rfl, d, _, rfl, e, _, rfl, f, _, rfl, rfl⟩ := spelled
    have tokens : tokenize q = .ok _ := (congrArg (scan 0) (by decide +kernel)).trans tokens
    rw [parseProgram, tokens]
    cbv
  have closed : ¬EndsInBlock p.toList := not_endsInBlock (by decide +kernel)
  exact ⟨first, second, closed, parseProgram_append first second closed⟩

end Automation.Expr
