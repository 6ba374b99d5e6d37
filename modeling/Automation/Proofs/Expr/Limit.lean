import Automation.Proofs.Expr.Levels

/-!
# Limits on nesting

A source has a limit below which it is cut off, and from which on it is read as one and the same
(`exists_cut`). What is known of expressions comes to statements and blocks: a block takes one level
more than the statement in it, and stands behind the keyword of a statement.
-/

namespace Automation.Expr

/-! ## Statements -/

theorem name_cases (what : String) (ts : List Token) :
    (∃ x rest, name what ts = .ok (x, rest) ∧ rest.length < ts.length) ∨
      name what ts = .error (unexpected what ts) := by
  unfold name
  split
  next => exact .inl ⟨_, _, rfl, Nat.lt_succ_self _⟩
  next => exact .inr rfl

theorem skipSemicolon_length_le (ts : List Token) : (skipSemicolon ts).length ≤ ts.length := by
  unfold skipSemicolon
  split
  · exact Nat.le_succ _
  · exact Nat.le_refl _

theorem ended_settles {x : Nat → Parse Stmt} {ts : List Token} {n : Nat}
    (h : Settles x n (Shorter ts)) : Settles (fun d => ended (x d)) n (Shorter ts) :=
  h.map (f := fun read => (read.1, skipSemicolon read.2)) (fun d e failed => by rw [failed]; rfl)
    (fun d read value => by rw [value]; rfl)
    fun read shorter => Nat.lt_of_le_of_lt (skipSemicolon_length_le _) shorter

/-- The tokens after the head of a loop: a parenthesis that has opened it closes it. -/
def closeHead (parenthesized : Bool) (ts : List Token) : Except Refusal (List Token) :=
  if parenthesized then
    match ts with
    | ⟨.rightParen, _⟩ :: ts => .ok ts
    | ts => .error (unexpected "')'" ts)
  else .ok ts

theorem closeHead_cases (parenthesized : Bool) (ts : List Token) :
    (∃ rest, closeHead parenthesized ts = .ok rest ∧ rest.length ≤ ts.length) ∨
      ∃ pos fault, closeHead parenthesized ts = .error (.malformed pos fault) := by
  unfold closeHead
  split
  · split
    next => exact .inl ⟨_, rfl, Nat.le_succ _⟩
    next => exact .inr ⟨_, _, rfl⟩
  · exact .inl ⟨_, rfl, Nat.le_refl _⟩

/-- A loop from its variable on. -/
def loopFrom (parenthesized : Bool) (expression : List Token → Parse Term)
    (block : List Token → Parse (List Stmt)) (ts : List Token) : Parse Stmt :=
  match name "loop variable" ts with
  | .error e => .error e
  | .ok (x, ⟨.kwIn, _⟩ :: ts) =>
    match expression ts with
    | .error e => .error e
    | .ok (iterable, ts) =>
      match closeHead parenthesized ts with
      | .error e => .error e
      | .ok ts =>
        match block ts with
        | .error e => .error e
        | .ok (body, ts) => .ok (.loop x iterable body, ts)
  | .ok (_, ts) => .error (unexpected "'in' or 'of'" ts)

/-- Before the variable of a loop there may be a parenthesis and a keyword. -/
theorem iteration_from (ts : List Token) :
    ∃ parenthesized mid, mid.length ≤ ts.length ∧ ∀ expression block,
      iteration expression block ts = loopFrom parenthesized expression block mid := by
  rcases ts with _ | ⟨⟨kind, pos⟩, ts⟩
  · exact ⟨false, [], Nat.le_refl _, fun _ _ => rfl⟩
  cases kind with
  | kwLet => exact ⟨false, ts, Nat.le_succ _, fun _ _ => rfl⟩
  | leftParen =>
    rcases ts with _ | ⟨⟨kind, pos⟩, ts⟩
    · exact ⟨true, [], Nat.le_succ _, fun _ _ => rfl⟩
    cases kind with
    | kwLet => exact ⟨true, ts, Nat.le_add_right _ 2, fun _ _ => rfl⟩
    | _ => exact ⟨true, _ :: ts, Nat.le_succ _, fun _ _ => rfl⟩
  | _ => exact ⟨false, _ :: ts, Nat.le_refl _, fun _ _ => rfl⟩

section Statements

variable {size n : Nat} {expression : Nat → List Token → Parse Term}
  (h : SettlesUpTo size n expression)
include h

theorem declaration_settles : SettlesUpTo size n fun d => declaration (expression d) := by
  intro ts fits
  obtain ⟨x, rest, named, shorter⟩ | unnamed := name_cases "variable name" ts
  · rcases rest with _ | ⟨⟨kind, pos⟩, rest⟩
    · exact .done (fun d => by simp only [declaration, named]; rfl) shorter
    cases kind with
    | assign =>
      have shorter : rest.length + 1 < ts.length := shorter
      refine (h rest (by omega)).map (f := fun read => (.declare x read.1, read.2))
        (fun d e failed => ?_) (fun d read value => ?_) fun read taken => ?_
      · simp only [declaration, named, failed]
      · simp only [declaration, named, value]
      · exact Nat.lt_trans taken (Nat.lt_of_succ_lt shorter)
    | _ => exact .done (fun d => by simp only [declaration, named]; rfl) shorter
  · exact .stop fun d => by simp only [declaration, unnamed]; rfl

/-- A return statement settles as its value does; without one it takes no more tokens. -/
theorem returning_settles (ts : List Token) (fits : ts.length ≤ size) :
    Settles (fun d => returning (expression d) ts) n (NoLonger ts) := by
  have value {y : Nat → Parse Stmt} (failed : ∀ d e, expression d ts = .error e → y d = .error e)
      (ok : ∀ d read, expression d ts = .ok read → y d = .ok (.ret (some read.1), read.2)) :
      Settles y n (NoLonger ts) :=
    (h ts fits).map failed ok fun read shorter => Nat.le_of_lt shorter
  rcases ts with _ | ⟨⟨kind, pos⟩, ts⟩
  · exact .done (fun d => rfl) (Nat.le_refl 0)
  cases kind with
  | semicolon | rightBrace | eof => exact .done (fun d => rfl) (Nat.le_refl (ts.length + 1))
  | _ =>
    exact value (fun d e failed => by simp only [returning, peek, List.headD_cons, failed])
      fun d read ok => by simp only [returning, peek, List.headD_cons, ok]

/-- An assignment settles as both sides do; other expressions alone. -/
theorem simpleStatement_settles : SettlesUpTo size n fun d => simpleStatement (expression d) := by
  intro ts fits
  refine (h ts fits).andThen (fun d e failed => by simp only [simpleStatement, failed]) ?_
  rintro ⟨e, rest⟩ shorter
  have plain {y : Nat → Parse Stmt} (same : ∀ d, y d = .ok (.expr e, rest)) :
      Settles y n (Shorter ts) := .done same shorter
  rcases rest with _ | ⟨⟨kind, pos⟩, rest⟩
  · exact ⟨_, plain fun d => rfl, fun d read => by simp only [simpleStatement, read]⟩
  cases kind with
  | assign =>
    cases target : assignTarget? e with
    | none =>
      exact ⟨_, .stop fun d => rfl, fun d read => by simp only [simpleStatement, read, target]; rfl⟩
    | some path =>
      have shorter : rest.length + 1 < ts.length := shorter
      refine ⟨_, (h rest (by omega)).map (f := fun read => (.assign path.1 path.2 read.1, read.2))
        (fun d e failed => ?_) (fun d read value => ?_) fun read taken => ?_,
        fun d read => by simp only [simpleStatement, read, target]; rfl⟩
      · simp only [failed]
      · simp only [value]
      · exact Nat.lt_trans taken (Nat.lt_of_succ_lt shorter)
  | _ => exact ⟨_, plain fun d => rfl, fun d read => by simp only [simpleStatement, read]⟩

variable {block : Nat → List Token → Parse (List Stmt)} (blocks : SettlesUpTo size n block)
include blocks

theorem guarded_settles : SettlesUpTo size n fun d => guarded (expression d) (block d) := by
  intro ts fits
  refine (h ts fits).both (w := fun read d => block d read.2)
    (f := fun read body => ((read.1, body.1), body.2)) (fun read shorter => blocks read.2 ?_)
    (fun d e failed => ?_) (fun d read e first failed => ?_) (fun d read body first ok => ?_)
    fun read body shorter taken => Nat.lt_trans taken shorter
  · exact Nat.le_trans (Nat.le_of_lt shorter) fits
  · simp only [guarded, failed]
  · simp only [guarded, first, failed]
  · simp only [guarded, first, ok]

/-- The branches after the first one settle as each of them does. -/
theorem elseBranches_settles (fuel : Nat) (ts : List Token) (fits : ts.length ≤ size) :
    Settles (fun d => elseBranches (expression d) (block d) fuel ts) n (NoLonger ts) := by
  have none {y : Nat → Parse (List (Term × List Stmt) × Option (List Stmt))}
      (same : ∀ d, y d = .ok (([], none), ts)) : Settles y n (NoLonger ts) :=
    .done same (Nat.le_refl ts.length)
  induction fuel generalizing ts with
  | zero => exact none fun d => rfl
  | succ fuel ih =>
    rcases ts with _ | ⟨⟨kind, pos⟩, ts⟩
    · exact none fun d => rfl
    replace fits : ts.length + 1 ≤ size := fits
    -- The block of the last `else`.
    have last {y : Nat → Parse (List (Term × List Stmt) × Option (List Stmt))}
        (failed : ∀ d e, block d ts = .error e → y d = .error e)
        (ok : ∀ d read, block d ts = .ok read → y d = .ok (([], some read.1), read.2)) :
        Settles y n (NoLonger (⟨kind, pos⟩ :: ts)) :=
      (blocks ts (by omega)).map failed ok fun read shorter =>
        Nat.le_of_lt (Nat.lt_succ_of_lt shorter)
    cases kind with
    | kwElse =>
      rcases ts with _ | ⟨⟨kind, pos⟩, ts⟩
      · exact last (fun d e failed => by simp only [elseBranches, failed])
          fun d read body => by simp only [elseBranches, body]
      cases kind with
      | kwIf =>
        replace fits : ts.length + 2 ≤ size := fits
        refine (guarded_settles h blocks ts (by omega)).andThen
          (fun d e failed => by simp only [elseBranches, failed]) ?_
        rintro ⟨first, mid⟩ shorter
        have shorter : mid.length < ts.length := shorter
        refine ⟨_, (ih mid (by omega) fun same => .done same (Nat.le_refl mid.length)).map
          (f := fun read => ((first :: read.1.1, read.1.2), read.2))
          (fun d e failed => ?_) (fun d read others => ?_) fun read taken => ?_,
          fun d read => by simp only [elseBranches, read]; rfl⟩
        · simp only [failed]
        · simp only [others]
        · have taken : read.2.length ≤ mid.length := taken
          show read.2.length ≤ ts.length + 2
          omega
      | _ =>
        exact last (fun d e failed => by simp only [elseBranches, failed])
          fun d read body => by simp only [elseBranches, body]
    | _ => exact none fun d => rfl

theorem conditional_settles : SettlesUpTo size n fun d => conditional (expression d) (block d) := by
  intro ts fits
  refine (guarded_settles h blocks ts fits).both
    (w := fun read d => elseBranches (expression d) (block d) (read.2.length + 1) read.2)
    (f := fun read others => (.branch (read.1 :: others.1.1) others.1.2, others.2))
    (fun read shorter => elseBranches_settles h blocks _ read.2 ?_)
    (fun d e failed => ?_) (fun d read e first failed => ?_) (fun d read others first ok => ?_)
    fun read others shorter taken => Nat.lt_of_le_of_lt taken shorter
  · exact Nat.le_trans (Nat.le_of_lt shorter) fits
  · simp only [conditional, failed]
  · simp only [conditional, first, failed]
  · simp only [conditional, first, ok]

theorem loopFrom_settles (parenthesized : Bool) :
    SettlesUpTo size n fun d => loopFrom parenthesized (expression d) (block d) := by
  intro ts fits
  obtain ⟨x, rest, named, shorter⟩ | unnamed := name_cases "loop variable" ts
  · rcases rest with _ | ⟨⟨kind, pos⟩, rest⟩
    · exact .stop fun d => by simp only [loopFrom, named]; rfl
    cases kind with
    | kwIn =>
      replace shorter : rest.length + 1 < ts.length := shorter
      refine (h rest (by omega)).andThen
        (fun d e failed => by simp only [loopFrom, named, failed]) ?_
      rintro ⟨iterable, mid⟩ taken
      replace taken : mid.length < rest.length := taken
      obtain ⟨body, closed, le⟩ | ⟨pos, fault, unclosed⟩ := closeHead_cases parenthesized mid
      · refine ⟨_, (blocks body (by omega)).map (f := fun read => (.loop x iterable read.1, read.2))
          (fun d e failed => ?_) (fun d read block => ?_) fun read last => ?_,
          fun d read => by simp only [loopFrom, named, read, closed]; rfl⟩
        · simp only [failed]
        · simp only [block]
        · exact Nat.lt_trans last (by omega)
      · exact ⟨_, .stop fun d => rfl,
          fun d read => by simp only [loopFrom, named, read, unclosed]; rfl⟩
    | _ => exact .stop fun d => by simp only [loopFrom, named]; rfl
  · exact .stop fun d => by simp only [loopFrom, unnamed]; rfl

theorem iteration_settles : SettlesUpTo size n fun d => iteration (expression d) (block d) := by
  intro ts fits
  obtain ⟨parenthesized, mid, le, same⟩ := iteration_from ts
  refine Settles.congr ?_ fun d => same (expression d) (block d)
  exact (loopFrom_settles h blocks parenthesized mid (Nat.le_trans le fits)).mono (Nat.le_refl n)
    fun read taken => Nat.lt_of_lt_of_le taken le

end Statements

section Sequences

variable {size n : Nat} {statement : Nat → List Token → Parse Stmt}
  (h : SettlesUpTo size n statement)
include h

/-- A block settles as its statements do. -/
theorem blockBody_settles (fuel : Nat) (ts : List Token) (fits : ts.length ≤ size) :
    Settles (fun d => blockBody (statement d) fuel ts) n (NoLonger ts) := by
  induction fuel generalizing ts with
  | zero => exact .stop fun d => rfl
  | succ fuel ih =>
    have tail : ts.tail.length ≤ ts.length := by simp
    have item {y : Nat → Parse (List Stmt)} := (h ts fits).both (y := y)
      (Q := NoLonger ts) (w := fun read d => blockBody (statement d) fuel read.2)
      (f := fun read others => (read.1 :: others.1, others.2))
      fun read shorter => ih read.2 (Nat.le_trans (Nat.le_of_lt shorter) fits)
    rcases ts with _ | ⟨⟨kind, pos⟩, ts⟩
    · exact .stop fun d => rfl
    cases kind with
    | rightBrace => exact .done (fun d => rfl) tail
    | eof => exact .stop fun d => rfl
    | semicolon =>
      refine Settles.congr ?_ fun d => rfl
      exact (ih ts (Nat.le_trans tail fits)).mono (Nat.le_refl n)
        fun read taken => Nat.le_trans taken tail
    | _ =>
      refine item (fun d e failed => ?_) (fun d read e first failed => ?_)
        (fun d read others first ok => ?_)
        fun read others shorter taken => Nat.le_of_lt (Nat.lt_of_le_of_lt taken shorter)
      · simp only [blockBody, peek, List.headD_cons, failed]
      · simp only [blockBody, peek, List.headD_cons, first, failed]
      · simp only [blockBody, peek, List.headD_cons, first, ok]

end Sequences

/-- Statements and blocks settle on tokens. -/
structure SettlingStatements (ts : List Token) : Prop where
  statement : Settles (fun d => Expr.statement d ts) (ts.length + 1) (Shorter ts)
  block : Settles (fun d => Expr.statementBlock d ts) (ts.length + 2) (Shorter ts)

/-- A statement settles where blocks behind its first token do. -/
theorem statement_settles {ts : List Token}
    (less : ∀ ts', ts'.length < ts.length → SettlingStatements ts') :
    Settles (fun d => statement d ts) (ts.length + 1) (Shorter ts) := by
  have simple := ended_settles (simpleStatement_settles (expression_settles_all ts.length) ts
    (Nat.le_refl _))
  rcases ts with _ | ⟨⟨kind, pos⟩, ts⟩
  · exact simple.congr fun d => by rw [statement.eq_def]
  have expressions : SettlesUpTo ts.length (ts.length + 2) fun d ts => expression d 1 ts :=
    fun ts' fits => (expression_settles_all ts.length ts' fits).mono (Nat.le_succ _) fun _ => id
  have blocks : SettlesUpTo ts.length (ts.length + 2) statementBlock := fun ts' fits =>
    (less ts' (Nat.lt_succ_of_le fits)).block.mono (by omega) fun _ => id
  -- What takes tokens, or none, behind a keyword.
  have behind {x : Nat → Parse Stmt} (settles : Settles x (ts.length + 2) (NoLonger ts)) :
      Settles x (ts.length + 2) (Shorter (⟨kind, pos⟩ :: ts)) :=
    settles.mono (Nat.le_refl _) fun read => Nat.lt_succ_of_le
  have taking {x : Nat → Parse Stmt} (settles : Settles x (ts.length + 2) (Shorter ts)) :
      Settles x (ts.length + 2) (Shorter (⟨kind, pos⟩ :: ts)) :=
    settles.mono (Nat.le_refl _) fun read => Nat.lt_succ_of_lt
  cases kind with
  | kwIf =>
    exact (taking (conditional_settles expressions blocks ts (Nat.le_refl _))).congr fun d => by
      rw [statement.eq_def]
  | kwFor =>
    exact (taking (iteration_settles expressions blocks ts (Nat.le_refl _))).congr fun d => by
      rw [statement.eq_def]
  | kwLet =>
    exact (ended_settles (taking (declaration_settles expressions ts (Nat.le_refl _)))).congr
      fun d => by rw [statement.eq_def]
  | kwReturn =>
    exact (ended_settles (behind (returning_settles expressions ts (Nat.le_refl _)))).congr
      fun d => by rw [statement.eq_def]
  | kwThrow =>
    refine taking ((expressions ts (Nat.le_refl _)).map
      (f := fun read => (.throw read.1, skipSemicolon read.2)) (fun d e failed => ?_)
      (fun d read value => ?_) fun read shorter => ?_)
    · rw [statement.eq_def]
      simp only [failed]
    · rw [statement.eq_def]
      simp only [value]
      rfl
    · exact Nat.lt_of_le_of_lt (skipSemicolon_length_le _) shorter
  | _ => exact simple.congr fun d => by rw [statement.eq_def]

/-- A block settles where statements do, on the same tokens and behind its first one. -/
theorem statementBlock_settles {ts : List Token}
    (here : Settles (fun d => statement d ts) (ts.length + 1) (Shorter ts))
    (less : ∀ ts', ts'.length < ts.length → SettlingStatements ts') :
    Settles (fun d => statementBlock d ts) (ts.length + 2) (Shorter ts) := by
  refine .level (by rw [statementBlock.eq_def]) ?_
  have single {y : Nat → Parse (List Stmt)}
      (failed : ∀ d e, statement d ts = .error e → y d = .error e)
      (ok : ∀ d read, statement d ts = .ok read → y d = .ok ([read.1], read.2)) :
      Settles y (ts.length + 1) (Shorter ts) :=
    here.map failed ok fun read => id
  rcases ts with _ | ⟨⟨kind, pos⟩, ts⟩
  · exact single (fun d e failed => by rw [statementBlock.eq_def]; simp only [failed])
      fun d read ok => by rw [statementBlock.eq_def]; simp only [ok]
  cases kind with
  | leftBrace =>
    have statements : SettlesUpTo ts.length (ts.length + 2) statement := fun ts' fits =>
      (less ts' (Nat.lt_succ_of_le fits)).statement.mono (by omega) fun _ => id
    refine ((blockBody_settles statements (ts.length + 1) ts (Nat.le_refl _)).mono (Nat.le_refl _)
      fun read => Nat.lt_succ_of_le).congr fun d => by rw [statementBlock.eq_def]
  | _ =>
    exact single (fun d e failed => by rw [statementBlock.eq_def]; simp only [failed])
      fun d read ok => by rw [statementBlock.eq_def]; simp only [ok]

/-- Statements and blocks settle on any tokens. -/
theorem settlingStatements (ts : List Token) : SettlingStatements ts := by
  induction ts using WellFounded.induction (measure List.length).wf with
  | _ ts less =>
    have here := statement_settles less
    exact ⟨here, statementBlock_settles here less⟩

/-- The statements of a source settle as each of them does. -/
theorem statements_settles {size : Nat} (fuel : Nat) (ts : List Token) (fits : ts.length ≤ size) :
    Settles (fun d => statements d fuel ts) (size + 1) fun _ => True := by
  induction fuel generalizing ts with
  | zero => exact .stop fun d => rfl
  | succ fuel ih =>
    have here := (settlingStatements ts).statement.mono (Nat.succ_le_succ fits) fun _ => id
    have item {y : Nat → Except Refusal Program} := here.both (y := y) (Q := fun _ => True)
      (w := fun read d => statements d fuel read.2) (f := fun read others => read.1 :: others)
      fun read shorter => ih read.2 (Nat.le_trans (Nat.le_of_lt shorter) fits)
    rcases ts with _ | ⟨⟨kind, pos⟩, ts⟩
    · exact .done (fun d => rfl) trivial
    cases kind with
    | eof => exact .done (fun d => rfl) trivial
    | semicolon => exact ih ts (Nat.le_of_succ_le fits)
    | _ =>
      refine item (fun d e failed => ?_) (fun d read e first failed => ?_)
        (fun d read others first ok => ?_) fun _ _ _ => id
      · simp only [statements, peek, List.headD_cons, failed]
      · simp only [statements, peek, List.headD_cons, first, failed]
      · simp only [statements, peek, List.headD_cons, first, ok]

/-! ## Sources -/

theorem parseTokens_settles (ts : List Token) :
    Settles (fun d => parseTokens d ts) (ts.length + 1) fun _ => True := by
  refine ((settling ts).expression 1).andThen
    (fun d e failed => by simp only [parseTokens, failed]) ?_
  rintro ⟨e, rest⟩ -
  cases last : (peek rest).kind with
  | eof =>
    exact ⟨_, .done (fun d => rfl) trivial,
      fun d read => by simp only [parseTokens, read, last]; rfl⟩
  | _ =>
    exact ⟨_, .stop fun d => rfl, fun d read => by simp only [parseTokens, read, last]; rfl⟩

/-- The count of the tokens of a source, with its end; none if they cannot be told apart. -/
def tokenCount (source : String) : Nat :=
  match tokenize source with
  | .ok ts => ts.length
  | .error _ => 0

/-- Scanning answers at least the end of the source, or what is malformed in it. -/
theorem scan_cases (pos : Nat) (cs : List Char) :
    (∃ ts, scan pos cs = .ok ts ∧ 0 < ts.length) ∨
      ∃ p fault, scan pos cs = .error (.malformed p fault) := by
  induction h : cs.length using Nat.strongRecOn generalizing pos cs with
  | _ n ih =>
    rw [scan.eq_def]
    dsimp only
    split
    next => exact .inl ⟨_, rfl, Nat.zero_lt_one⟩
    next c rest found =>
      split
      next => exact .inr ⟨_, _, rfl⟩
      next lex _ =>
        have shorter : (rest.drop lex.extra).length < n := by
          have := congrArg List.length found
          simp only [List.length_drop, List.length_cons] at this ⊢
          omega
        obtain ⟨ts, scanned, -⟩ | ⟨p, fault, failed⟩ := ih _ shorter _ _ rfl
        · rw [scanned]
          exact .inl ⟨_, rfl, Nat.succ_pos _⟩
        · rw [failed]
          exact .inr ⟨_, _, rfl⟩

/-- A reader with a limit on nesting cuts its source off below some limit, and from there on the
source is one syntax tree, or is malformed in one way. -/
structure CutAt (read : Nat → Except ExprError α) (cut : Nat) : Prop where
  below : ∀ limit < cut, read limit = .error (.tooDeep limit)
  above : (∃ a, ∀ limit, cut ≤ limit → read limit = .ok a) ∨
    ∃ pos fault, ∀ limit, cut ≤ limit → read limit = .error (.malformed pos fault)

/-- What settles on tokens has a cut for their source. -/
theorem Settles.cutAt {x : Nat → Except Refusal α} {n : Nat} {P : α → Prop}
    {read : Nat → Except ExprError α} (settles : Settles x n P)
    (same : ∀ d, read d = (x d).mapError (·.toError d)) : ∃ cut ≤ n, CutAt read cut := by
  obtain ⟨cut, within, answer, final, below, above⟩ := settles
  refine ⟨cut, within, fun d lt => by rw [same, below d lt]; rfl, ?_⟩
  cases final with
  | malformed pos fault => exact .inr ⟨pos, fault, fun d le => by rw [same, above d le]; rfl⟩
  | @ok a => exact .inl ⟨a, fun d le => by rw [same, above d le]; rfl⟩

/-- A source is malformed to every limit where its tokens cannot be told apart. -/
theorem exists_cut_of_malformed {read : Nat → Except ExprError α} {pos : Nat} {fault : Fault}
    (n : Nat) (same : ∀ d, read d = .error (.malformed pos fault)) : ∃ cut ≤ n, CutAt read cut :=
  ⟨0, Nat.zero_le n, fun _ lt => absurd lt (Nat.not_lt_zero _),
    .inr ⟨pos, fault, fun d _ => same d⟩⟩

/-- The limit on nesting only cuts sources off: every source has a limit, of at most twice its
tokens, below which it is nested too deeply, and from which on it is read as one and the same;
expressions and scripts each their own. -/
theorem exists_cut (source : String) :
    (∃ cut ≤ 2 * tokenCount source, CutAt (parseExpression source) cut) ∧
      ∃ cut ≤ 2 * tokenCount source, CutAt (parseProgram source) cut := by
  obtain ⟨ts, scanned, nonempty⟩ | ⟨pos, fault, failed⟩ := scan_cases 0 source.toList
  · have tokens : tokenize source = .ok ts := scanned
    have count : tokenCount source = ts.length := by rw [tokenCount, tokens]
    have enough : ts.length + 1 ≤ 2 * tokenCount source := by omega
    have expressions := (parseTokens_settles ts).mono enough fun _ => id
    have scripts := (statements_settles (ts.length + 1) ts (Nat.le_refl _)).mono enough fun _ => id
    exact ⟨expressions.cutAt fun d => by rw [parseExpression, tokens],
      scripts.cutAt fun d => by rw [parseProgram, tokens]⟩
  · have tokens : tokenize source = .error (.malformed pos fault) := failed
    exact ⟨exists_cut_of_malformed _ fun d => by rw [parseExpression, tokens],
      exists_cut_of_malformed _ fun d => by rw [parseProgram, tokens]⟩

end Automation.Expr
