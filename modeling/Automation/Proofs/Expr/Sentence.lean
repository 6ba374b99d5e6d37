import Automation.Proofs.Expr.Reading
import Automation.Proofs.Expr.Script

/-!
# Written scripts

A `Sentence` is a statement as it is written: with braces around every block, `else if` for a
further branch and a semicolon behind every simple statement. Sentences are read as exactly the
statements that they write (`parseProgram_write`): each one ends before the first token of the next,
because no statement begins with `else`, with a suffix or with an operator between operands.
-/

namespace Automation.Expr

open Filter

namespace Word

def kwLet : Word := .mark .kwLet "let" (by decide)
def kwConst : Word := .mark .kwLet "const" (by decide)
def assign : Word := .mark .assign "=" (by decide)
def semicolon : Word := .mark .semicolon ";" (by decide)
def kwIf : Word := .mark .kwIf "if" (by decide)
def kwElse : Word := .mark .kwElse "else" (by decide)
def kwFor : Word := .mark .kwFor "for" (by decide)
def kwIn : Word := .mark .kwIn "in" (by decide)
def kwOf : Word := .mark .kwIn "of" (by decide)
def kwReturn : Word := .mark .kwReturn "return" (by decide)
def kwThrow : Word := .mark .kwThrow "throw" (by decide)

end Word

/-! ## Sentences -/

/-- A step of the path of an assignment as it is written. -/
inductive PhraseSegment where
  | field (x : Identifier)
  | index (key : Phrase)

/-- The step that is written. -/
def PhraseSegment.segment : PhraseSegment → PathSegment
  | .field x => .field x.1
  | .index k => .index k.expr

/-- A phrase with one more suffix. -/
def PhraseSegment.extend (p : Phrase) : PhraseSegment → Phrase
  | .field x => .member p x
  | .index k => .index p k

/-- What an assignment assigns to, as it is written. -/
def target (x : Identifier) (path : List PhraseSegment) : Phrase :=
  path.foldl PhraseSegment.extend (.ident x)

mutual

/-- A statement as it is written. -/
inductive Sentence where
  | declare (x : Identifier) (value : Phrase)
  | assign (x : Identifier) (path : List PhraseSegment) (value : Phrase)
  | branch (condition : Phrase) (body : List Sentence) (otherwise : Otherwise)
  /-- A loop, whose head may stand between parentheses. -/
  | loop (parentheses : Bool) (x : Identifier) (items : Phrase) (body : List Sentence)
  | ret (value : Option Phrase)
  | throw (value : Phrase)
  | expr (value : Phrase)

/-- What follows the first branch of a conditional statement, as it is written. -/
inductive Otherwise where
  | nothing
  | block (body : List Sentence)
  | branch (condition : Phrase) (body : List Sentence) (otherwise : Otherwise)

end

mutual

/-- The statement that is written. -/
def Sentence.stmt : Sentence → Stmt
  | .declare x p => .declare x.1 p.expr
  | .assign x path p => .assign x.1 (path.map PhraseSegment.segment) p.expr
  | .branch c b o => .branch ((c.expr, Sentence.stmts b) :: o.branches) o.last
  | .loop _ x p b => .loop x.1 p.expr (Sentence.stmts b)
  | .ret p => .ret (p.map Phrase.expr)
  | .throw p => .throw p.expr
  | .expr p => .expr p.expr

/-- The statements that are written. -/
def Sentence.stmts : List Sentence → List Stmt
  | [] => []
  | s :: rest => s.stmt :: Sentence.stmts rest

/-- The further branches. -/
def Otherwise.branches : Otherwise → List (Term × List Stmt)
  | .nothing => []
  | .block _ => []
  | .branch c b o => (c.expr, Sentence.stmts b) :: o.branches

/-- The block of the last `else`. -/
def Otherwise.last : Otherwise → Option (List Stmt)
  | .nothing => none
  | .block b => some (Sentence.stmts b)
  | .branch _ _ o => o.last

end

/-- The words of a block. -/
def blockWords (wss : List (List Word)) : List Word :=
  .leftBrace :: (wss.flatten ++ [.rightBrace])

mutual

/-- The words of a sentence. -/
def Sentence.words : Sentence → List Word
  | .declare x p => .kwLet :: .ident x :: .assign :: (p.words ++ [.semicolon])
  | .assign x path p => (target x path).words ++ .assign :: (p.words ++ [.semicolon])
  | .branch c b o => .kwIf :: ((c.words ++ blockWords (Sentence.wordLists b)) ++ o.words)
  | .loop false x p b => .kwFor :: .ident x :: .kwIn :: (p.words ++ blockWords (Sentence.wordLists b))
  | .loop true x p b =>
    .kwFor :: .leftParen :: .kwConst :: .ident x :: .kwOf ::
      (p.words ++ .rightParen :: blockWords (Sentence.wordLists b))
  | .ret none => [.kwReturn, .semicolon]
  | .ret (some p) => .kwReturn :: (p.words ++ [.semicolon])
  | .throw p => .kwThrow :: (p.words ++ [.semicolon])
  | .expr p => p.words ++ [.semicolon]

/-- The words of each sentence. -/
def Sentence.wordLists : List Sentence → List (List Word)
  | [] => []
  | s :: rest => s.words :: Sentence.wordLists rest

/-- The words of what follows the first branch. -/
def Otherwise.words : Otherwise → List Word
  | .nothing => []
  | .block b => .kwElse :: blockWords (Sentence.wordLists b)
  | .branch c b o => .kwElse :: .kwIf :: ((c.words ++ blockWords (Sentence.wordLists b)) ++ o.words)

end

/-- The text of a script. -/
def Sentence.write (ss : List Sentence) : String :=
  joined (Sentence.wordLists ss).flatten

/-! ## First words -/

/-- Whether a statement can begin with the token. -/
def TokenKind.starts : TokenKind → Bool
  | kwLet => true
  | kwIf => true
  | kwFor => true
  | kwReturn => true
  | kwThrow => true
  | kind => kind.opens

/-- Words that begin as a statement does. -/
def Starts (ws : List Word) : Prop :=
  ∃ w rest, ws = w :: rest ∧ w.kind.starts = true

theorem TokenKind.starts_of_opens {kind : TokenKind} (h : kind.opens = true) :
    kind.starts = true := by
  cases kind <;> first | rfl | cases h

theorem Starts.cons {w : Word} (h : w.kind.starts = true) (rest : List Word) : Starts (w :: rest) :=
  ⟨w, rest, rfl, h⟩

theorem Opens.starts {ws : List Word} (h : Opens ws) (vs : List Word) : Starts (ws ++ vs) := by
  obtain ⟨w, rest, rfl, opens⟩ := h
  exact .cons (TokenKind.starts_of_opens opens) _

theorem Spelled.starts {ws : List Word} {ts rest : List Token} (h : Spelled ws ts rest)
    (begins : Starts ws) : (peek ts).kind.starts = true := by
  obtain ⟨w, ws, rfl, starts⟩ := begins
  cases h with
  | cons _ pos _ => exact starts

/-! ## What words are read as -/

/-- Words that are read as a statement, where no further branch follows. -/
structure ReadsStatement (ws : List Word) (s : Stmt) : Prop where
  starts : Starts ws
  reads : ∀ {ts rest}, Spelled ws ts rest → (peek rest).kind ≠ .kwElse →
    ∀ᶠ d in atTop, statement d ts = .ok (s, rest)

/-- Each statement takes a token. -/
theorem ReadsStatement.shorter {ws : List Word} {s : Stmt} (h : ReadsStatement ws s)
    {ts rest : List Token} {fuel : Nat} (spelled : Spelled ws ts rest) (le : ts.length < fuel + 1) :
    rest.length < fuel := by
  obtain ⟨w, ws', rfl, _⟩ := h.starts
  have := spelled.length_eq
  simp only [List.length_cons] at this
  omega

/-- Words that are read as a block. -/
def ReadsBlock (ws : List Word) (ss : List Stmt) : Prop :=
  ∀ {ts rest}, Spelled ws ts rest → ∀ᶠ d in atTop, statementBlock d ts = .ok (ss, rest)

/-- No further branch follows statements before what begins none. -/
theorem not_else_of_spelled {wss : List (List Word)} {ss : List Stmt}
    (h : List.Forall₂ ReadsStatement wss ss) {ts rest : List Token}
    (spelled : Spelled wss.flatten ts rest) (stop : (peek rest).kind ≠ .kwElse) :
    (peek ts).kind ≠ .kwElse := by
  cases h with
  | nil =>
    rw [List.flatten_nil, Spelled.nil_iff] at spelled
    exact spelled ▸ stop
  | cons first _ =>
    rw [List.flatten_cons, Spelled.append_iff] at spelled
    obtain ⟨_, front, _⟩ := spelled
    have starts := front.starts first.starts
    intro other
    rw [other] at starts
    cases starts

section Steps

variable {depth fuel pos : Nat} {ts mid rest : List Token} {s : Stmt} {ss : List Stmt}

theorem blockBody_end {statement : List Token → Parse Stmt} :
    blockBody statement (fuel + 1) (⟨.rightBrace, pos⟩ :: rest) = .ok ([], rest) := by
  rw [blockBody]
  rfl

theorem blockBody_cons {statement : List Token → Parse Stmt}
    (starts : (peek ts).kind.starts = true) (read : statement ts = .ok (s, mid))
    (others : blockBody statement fuel mid = .ok (ss, rest)) :
    blockBody statement (fuel + 1) ts = .ok (s :: ss, rest) := by
  rw [blockBody]
  split
  next same => simp [same, TokenKind.starts, TokenKind.opens] at starts
  next same => simp [same, TokenKind.starts, TokenKind.opens] at starts
  next same => simp [same, TokenKind.starts, TokenKind.opens] at starts
  next => simp only [read, others]

theorem statements_end : statements depth (fuel + 1) [⟨.eof, pos⟩] = .ok [] := by
  rw [statements]
  rfl

theorem statements_cons (starts : (peek ts).kind.starts = true)
    (read : statement depth ts = .ok (s, mid)) (others : statements depth fuel mid = .ok ss) :
    statements depth (fuel + 1) ts = .ok (s :: ss) := by
  rw [statements]
  split
  next same => simp [same, TokenKind.starts, TokenKind.opens] at starts
  next same => simp [same, TokenKind.starts, TokenKind.opens] at starts
  next => simp only [read, others]

theorem statementBlock_brace
    (read : blockBody (fun ts => statement depth ts) (ts.length + 1) ts = .ok (ss, rest)) :
    statementBlock (depth + 1) (⟨.leftBrace, pos⟩ :: ts) = .ok (ss, rest) := by
  rw [statementBlock.eq_def]
  exact read

/-- What begins as an expression does is read as an expression or an assignment. -/
theorem statement_simple (opens : (peek ts).kind.opens = true)
    (read : simpleStatement (expression depth 1) ts = .ok (s, ⟨.semicolon, pos⟩ :: rest)) :
    statement depth ts = .ok (s, rest) := by
  rw [statement.eq_def]
  split
  next => cases opens
  next => cases opens
  next => cases opens
  next => cases opens
  next => cases opens
  next => rw [read, ended, skipSemicolon]

end Steps

/-! ## Blocks and scripts -/

/-- Statements up to a closing brace are read one after the other. -/
theorem blockBody_read {wss : List (List Word)} {ss : List Stmt}
    (h : List.Forall₂ ReadsStatement wss ss) : ∀ {ts rest : List Token} {fuel : Nat},
      Spelled (wss.flatten ++ [.rightBrace]) ts rest → ts.length < fuel →
      ∀ᶠ d in atTop, blockBody (fun ts => statement d ts) fuel ts = .ok (ss, rest) := by
  induction h with
  | nil =>
    intro ts rest fuel spelled le
    obtain ⟨fuel, rfl⟩ : ∃ n, fuel = n + 1 := ⟨fuel - 1, by omega⟩
    simp only [List.flatten_nil, List.nil_append, Spelled.cons_iff, Spelled.nil_iff] at spelled
    obtain ⟨pos, _, rfl, rfl⟩ := spelled
    exact .of_forall fun d => blockBody_end
  | @cons ws s wss ss first others ih =>
    intro ts rest fuel spelled le
    obtain ⟨fuel, rfl⟩ : ∃ n, fuel = n + 1 := ⟨fuel - 1, by omega⟩
    rw [List.flatten_cons, List.append_assoc, Spelled.append_iff] at spelled
    obtain ⟨mid, front, back⟩ := spelled
    have shorter := first.shorter front le
    have apart : (peek mid).kind ≠ .kwElse := by
      simp only [Spelled.append_iff, Spelled.cons_iff] at back
      obtain ⟨_, body, pos, _, rfl, _⟩ := back
      exact not_else_of_spelled others body (by simp [peek, Word.rightBrace, Word.kind])
    filter_upwards [first.reads front apart, ih back shorter] with d read others
    exact blockBody_cons (front.starts first.starts) read others

/-- Statements up to the end are read one after the other. -/
theorem statements_read {wss : List (List Word)} {ss : List Stmt}
    (h : List.Forall₂ ReadsStatement wss ss) : ∀ {ts : List Token} {stop fuel : Nat},
      Spelled wss.flatten ts [⟨.eof, stop⟩] → ts.length < fuel →
      ∀ᶠ d in atTop, statements d fuel ts = .ok ss := by
  induction h with
  | nil =>
    intro ts stop fuel spelled le
    obtain ⟨fuel, rfl⟩ : ∃ n, fuel = n + 1 := ⟨fuel - 1, by omega⟩
    rw [List.flatten_nil, Spelled.nil_iff] at spelled
    subst spelled
    exact .of_forall fun d => statements_end
  | @cons ws s wss ss first others ih =>
    intro ts stop fuel spelled le
    obtain ⟨fuel, rfl⟩ : ∃ n, fuel = n + 1 := ⟨fuel - 1, by omega⟩
    rw [List.flatten_cons, Spelled.append_iff] at spelled
    obtain ⟨mid, front, back⟩ := spelled
    have shorter := first.shorter front le
    have apart : (peek mid).kind ≠ .kwElse :=
      not_else_of_spelled others back (by simp [peek])
    filter_upwards [first.reads front apart, ih back shorter] with d read others
    exact statements_cons (front.starts first.starts) read others

/-- Statements between braces are read as a block. -/
theorem ReadsBlock.of_statements {wss : List (List Word)} {ss : List Stmt}
    (h : List.Forall₂ ReadsStatement wss ss) : ReadsBlock (blockWords wss) ss := by
  intro ts rest spelled
  rw [blockWords, Spelled.cons_iff] at spelled
  obtain ⟨pos, tail, rfl, spelled⟩ := spelled
  refine eventually_succ ?_
  filter_upwards [blockBody_read h spelled (Nat.lt_succ_self _)] with d read
  exact statementBlock_brace read

/-! ## Simple statements -/

/-- Words of a phrase before a semicolon. -/
theorem Phrase.reads_semicolon (p : Phrase) {ts rest : List Token}
    (h : Spelled (p.words ++ [.semicolon]) ts rest) : ∃ pos, ∀ᶠ d in atTop,
      expression d 1 ts = .ok (p.expr, ⟨.semicolon, pos⟩ :: rest) := by
  simp only [Spelled.append_iff, Spelled.cons_iff, Spelled.nil_iff] at h
  obtain ⟨_, front, pos, _, rfl, rfl⟩ := h
  exact ⟨pos, p.reads.whole front ⟨rfl, rfl⟩⟩

theorem ReadsStatement.declare (x : Identifier) (p : Phrase) :
    ReadsStatement (.kwLet :: .ident x :: .assign :: (p.words ++ [.semicolon]))
      (.declare x.1 p.expr) := by
  refine ⟨.cons rfl _, fun {ts rest} spelled _ => ?_⟩
  simp only [Spelled.cons_iff] at spelled
  obtain ⟨pos, _, rfl, pos₂, _, rfl, pos₃, tail, rfl, spelled⟩ := spelled
  obtain ⟨stop, value⟩ := p.reads_semicolon spelled
  filter_upwards [value] with d read
  show statement d (⟨.kwLet, pos⟩ :: ⟨.ident x.1, pos₂⟩ :: ⟨.assign, pos₃⟩ :: tail) = _
  rw [statement.eq_def]
  simp only [declaration, name, read]
  rfl

theorem ReadsStatement.ret_none : ReadsStatement [.kwReturn, .semicolon] (.ret none) := by
  refine ⟨.cons rfl _, fun {ts rest} spelled _ => ?_⟩
  simp only [Spelled.cons_iff, Spelled.nil_iff] at spelled
  obtain ⟨pos, _, rfl, pos₂, rest, rfl, rfl⟩ := spelled
  refine .of_forall fun d => ?_
  show statement d (⟨.kwReturn, pos⟩ :: ⟨.semicolon, pos₂⟩ :: rest) = _
  rw [statement.eq_def]
  rfl

theorem ReadsStatement.ret_some (p : Phrase) :
    ReadsStatement (.kwReturn :: (p.words ++ [.semicolon])) (.ret (some p.expr)) := by
  refine ⟨.cons rfl _, fun {ts rest} spelled _ => ?_⟩
  rw [Spelled.cons_iff] at spelled
  obtain ⟨pos, tail, rfl, spelled⟩ := spelled
  obtain ⟨stop, value⟩ := p.reads_semicolon spelled
  have opens := spelled.opens (p.opens.append _)
  filter_upwards [value] with d read
  have returned : returning (expression d 1) tail =
      .ok (.ret (some p.expr), ⟨.semicolon, stop⟩ :: rest) := by
    unfold returning
    split
    next same => simp [same, TokenKind.opens] at opens
    next same => simp [same, TokenKind.opens] at opens
    next same => simp [same, TokenKind.opens] at opens
    next => simp only [read]
  show statement d (⟨.kwReturn, pos⟩ :: tail) = _
  rw [statement.eq_def]
  simp only [returned]
  rfl

theorem ReadsStatement.throw (p : Phrase) :
    ReadsStatement (.kwThrow :: (p.words ++ [.semicolon])) (.throw p.expr) := by
  refine ⟨.cons rfl _, fun {ts rest} spelled _ => ?_⟩
  rw [Spelled.cons_iff] at spelled
  obtain ⟨pos, tail, rfl, spelled⟩ := spelled
  obtain ⟨stop, value⟩ := p.reads_semicolon spelled
  filter_upwards [value] with d read
  show statement d (⟨.kwThrow, pos⟩ :: tail) = _
  rw [statement.eq_def]
  simp only [read]
  rfl

theorem ReadsStatement.expr (p : Phrase) :
    ReadsStatement (p.words ++ [.semicolon]) (.expr p.expr) := by
  refine ⟨p.opens.starts _, fun {ts rest} spelled _ => ?_⟩
  obtain ⟨stop, value⟩ := p.reads_semicolon spelled
  filter_upwards [value] with d read
  have whole :
      simpleStatement (expression d 1) ts = .ok (.expr p.expr, ⟨.semicolon, stop⟩ :: rest) := by
    simp only [simpleStatement, read]
  exact statement_simple (spelled.opens (p.opens.append _)) whole

/-- What an assignment assigns to is found in the expression that is read before its sign. -/
theorem assignTarget?_target (x : Identifier) (path : List PhraseSegment) :
    assignTarget? (target x path).expr = some (x.1, path.map PhraseSegment.segment) := by
  have extended (p : Phrase) (s : PhraseSegment) {x : String} {before : List PathSegment}
      (h : assignTarget? p.expr = some (x, before)) :
      assignTarget? (PhraseSegment.extend p s).expr = some (x, before ++ [s.segment]) := by
    cases s <;> simp [PhraseSegment.extend, Phrase.expr, assignTarget?, h, PhraseSegment.segment]
  have along (p : Phrase) {x : String} {before : List PathSegment}
      (h : assignTarget? p.expr = some (x, before)) :
      assignTarget? (path.foldl PhraseSegment.extend p).expr =
        some (x, before ++ path.map PhraseSegment.segment) := by
    induction path generalizing p before with
    | nil => simpa using h
    | cons s path ih => simpa using ih _ (extended p s h)
  exact along (.ident x) rfl

theorem ReadsStatement.assign (x : Identifier) (path : List PhraseSegment) (p : Phrase) :
    ReadsStatement ((target x path).words ++ .assign :: (p.words ++ [.semicolon]))
      (.assign x.1 (path.map PhraseSegment.segment) p.expr) := by
  refine ⟨(target x path).opens.starts _, fun {ts rest} spelled _ => ?_⟩
  have opens := spelled.opens ((target x path).opens.append _)
  rw [Spelled.append_iff] at spelled
  obtain ⟨_, front, back⟩ := spelled
  rw [Spelled.cons_iff] at back
  obtain ⟨pos, tail, rfl, back⟩ := back
  obtain ⟨stop, value⟩ := p.reads_semicolon back
  filter_upwards [(target x path).reads.whole front ⟨rfl, rfl⟩, value] with d assigned read
  have assigned' : expression d 1 ts = .ok ((target x path).expr, ⟨.assign, pos⟩ :: tail) := assigned
  have whole : simpleStatement (expression d 1) ts =
      .ok (.assign x.1 (path.map PhraseSegment.segment) p.expr, ⟨.semicolon, stop⟩ :: rest) := by
    simp only [simpleStatement, assigned', assignTarget?_target, read]
  exact statement_simple opens whole

/-! ## Statements with blocks -/

/-- An expression ends where a block begins. -/
theorem ends_of_block {wss : List (List Word)} {ts rest : List Token}
    (h : Spelled (blockWords wss) ts rest) : Ends ts := by
  rw [blockWords, Spelled.cons_iff] at h
  obtain ⟨_, _, rfl, _⟩ := h
  exact ⟨rfl, rfl⟩

/-- A condition and its block are read, and nothing behind them. -/
theorem guarded_read (p : Phrase) {wss : List (List Word)} {ss : List Stmt}
    (h : ReadsBlock (blockWords wss) ss) {ts rest : List Token}
    (spelled : Spelled (p.words ++ blockWords wss) ts rest) : ∀ᶠ d in atTop,
      guarded (expression d 1) (fun ts => statementBlock d ts) ts = .ok ((p.expr, ss), rest) := by
  obtain ⟨mid, front, back⟩ := Spelled.append_iff.mp spelled
  filter_upwards [p.reads.whole front (ends_of_block back), h back] with d condition body
  simp only [guarded, condition, body]

/-- Words that are read as what follows the first branch of a conditional statement. -/
def ReadsOtherwise (ws : List Word) (branches : List (Term × List Stmt))
    (last : Option (List Stmt)) : Prop :=
  ∀ {ts rest fuel}, Spelled ws ts rest → (peek rest).kind ≠ .kwElse → ts.length < fuel →
    ∀ᶠ d in atTop, elseBranches (expression d 1) (fun ts => statementBlock d ts) fuel ts =
      .ok ((branches, last), rest)

theorem ReadsOtherwise.nothing : ReadsOtherwise [] [] none := by
  intro ts rest fuel spelled apart le
  obtain ⟨fuel, rfl⟩ : ∃ n, fuel = n + 1 := ⟨fuel - 1, by omega⟩
  rw [Spelled.nil_iff] at spelled
  subst spelled
  refine .of_forall fun d => ?_
  rw [elseBranches.eq_def]
  dsimp only
  split
  next => exact absurd rfl apart
  next => exact absurd rfl apart
  next => rfl

theorem ReadsOtherwise.block {wss : List (List Word)} {ss : List Stmt}
    (h : ReadsBlock (blockWords wss) ss) :
    ReadsOtherwise (.kwElse :: blockWords wss) [] (some ss) := by
  intro ts rest fuel spelled _ le
  obtain ⟨fuel, rfl⟩ : ∃ n, fuel = n + 1 := ⟨fuel - 1, by omega⟩
  rw [Spelled.cons_iff] at spelled
  obtain ⟨pos, tail, rfl, spelled⟩ := spelled
  filter_upwards [h spelled] with d body
  rw [blockWords, Spelled.cons_iff] at spelled
  obtain ⟨pos₂, _, rfl, _⟩ := spelled
  show elseBranches _ _ _ (⟨.kwElse, pos⟩ :: ⟨Word.leftBrace.kind, pos₂⟩ :: _) = _
  rw [elseBranches]
  · simp only [body]
  · intro _ _ same
    cases same

theorem ReadsOtherwise.branch (p : Phrase) {wss : List (List Word)} {ss : List Stmt}
    (h : ReadsBlock (blockWords wss) ss) {ws : List Word} {branches : List (Term × List Stmt)}
    {last : Option (List Stmt)} (others : ReadsOtherwise ws branches last) :
    ReadsOtherwise (.kwElse :: .kwIf :: ((p.words ++ blockWords wss) ++ ws))
      ((p.expr, ss) :: branches) last := by
  intro ts rest fuel spelled apart le
  obtain ⟨fuel, rfl⟩ : ∃ n, fuel = n + 1 := ⟨fuel - 1, by omega⟩
  simp only [Spelled.cons_iff] at spelled
  obtain ⟨pos, _, rfl, pos₂, tail, rfl, spelled⟩ := spelled
  obtain ⟨mid, front, back⟩ := Spelled.append_iff.mp spelled
  have shorter : mid.length < fuel := by
    have := front.length_eq
    simp only [List.length_cons] at le
    omega
  filter_upwards [guarded_read p h front, others back apart shorter] with d first others
  show elseBranches _ _ _ (⟨.kwElse, pos⟩ :: ⟨.kwIf, pos₂⟩ :: tail) = _
  rw [elseBranches]
  simp only [first, others]

theorem ReadsStatement.branch (p : Phrase) {wss : List (List Word)} {ss : List Stmt}
    (h : ReadsBlock (blockWords wss) ss) {ws : List Word} {branches : List (Term × List Stmt)}
    {last : Option (List Stmt)} (others : ReadsOtherwise ws branches last) :
    ReadsStatement (.kwIf :: ((p.words ++ blockWords wss) ++ ws))
      (.branch ((p.expr, ss) :: branches) last) := by
  refine ⟨.cons rfl _, fun {ts rest} spelled apart => ?_⟩
  rw [Spelled.cons_iff] at spelled
  obtain ⟨pos, tail, rfl, spelled⟩ := spelled
  obtain ⟨mid, front, back⟩ := Spelled.append_iff.mp spelled
  filter_upwards [guarded_read p h front, others back apart (Nat.lt_succ_self _)]
    with d first others
  show statement d (⟨.kwIf, pos⟩ :: tail) = _
  rw [statement.eq_def]
  simp only [conditional, first]
  rw [others]

section Loops

variable {expression : List Token → Parse Term} {block : List Token → Parse (List Stmt)}
  {x : String}
  {e : Term} {ss : List Stmt} {ts mid rest : List Token} {pos pos₂ pos₃ pos₄ pos₅ : Nat}

theorem iteration_plain (read : expression ts = .ok (e, mid)) (body : block mid = .ok (ss, rest)) :
    iteration expression block (⟨.ident x, pos⟩ :: ⟨.kwIn, pos₂⟩ :: ts) =
      .ok (.loop x e ss, rest) := by
  simp [iteration, name, read, body]

theorem iteration_between (read : expression ts = .ok (e, ⟨.rightParen, pos₅⟩ :: mid))
    (body : block mid = .ok (ss, rest)) :
    iteration expression block
        (⟨.leftParen, pos⟩ :: ⟨.kwLet, pos₂⟩ :: ⟨.ident x, pos₃⟩ :: ⟨.kwIn, pos₄⟩ :: ts) =
      .ok (.loop x e ss, rest) := by
  simp [iteration, name, read, body]

end Loops

theorem ReadsStatement.loop (x : Identifier) (p : Phrase) {wss : List (List Word)} {ss : List Stmt}
    (h : ReadsBlock (blockWords wss) ss) :
    ReadsStatement (.kwFor :: .ident x :: .kwIn :: (p.words ++ blockWords wss))
      (.loop x.1 p.expr ss) := by
  refine ⟨.cons rfl _, fun {ts rest} spelled _ => ?_⟩
  simp only [Spelled.cons_iff] at spelled
  obtain ⟨pos, _, rfl, pos₂, _, rfl, pos₃, tail, rfl, spelled⟩ := spelled
  obtain ⟨mid, front, back⟩ := Spelled.append_iff.mp spelled
  filter_upwards [p.reads.whole front (ends_of_block back), h back] with d read body
  show statement d (⟨.kwFor, pos⟩ :: ⟨.ident x.1, pos₂⟩ :: ⟨.kwIn, pos₃⟩ :: tail) = _
  rw [statement.eq_def]
  exact iteration_plain read body

theorem ReadsStatement.loop_between (x : Identifier) (p : Phrase) {wss : List (List Word)}
    {ss : List Stmt} (h : ReadsBlock (blockWords wss) ss) :
    ReadsStatement (.kwFor :: .leftParen :: .kwConst :: .ident x :: .kwOf ::
      (p.words ++ .rightParen :: blockWords wss)) (.loop x.1 p.expr ss) := by
  refine ⟨.cons rfl _, fun {ts rest} spelled _ => ?_⟩
  simp only [Spelled.cons_iff, Spelled.append_iff] at spelled
  obtain ⟨pos, _, rfl, pos₂, _, rfl, pos₃, _, rfl, pos₄, _, rfl, pos₅, tail, rfl, _, front, pos₆, mid,
    rfl, back⟩ := spelled
  filter_upwards [p.reads.whole front ⟨rfl, rfl⟩, h back] with d read body
  show statement d (⟨.kwFor, pos⟩ :: ⟨.leftParen, pos₂⟩ :: ⟨.kwLet, pos₃⟩ :: ⟨.ident x.1, pos₄⟩ ::
    ⟨.kwIn, pos₅⟩ :: tail) = _
  rw [statement.eq_def]
  exact iteration_between read body

mutual

/-- **A sentence is read as its statement.** -/
theorem Sentence.reads : ∀ s : Sentence, ReadsStatement s.words s.stmt
  | .declare x p => .declare x p
  | .assign x path p => .assign x path p
  | .branch c b o => .branch c (ReadsBlock.of_statements (Sentence.reads_all b)) o.reads
  | .loop false x p b => .loop x p (ReadsBlock.of_statements (Sentence.reads_all b))
  | .loop true x p b => .loop_between x p (ReadsBlock.of_statements (Sentence.reads_all b))
  | .ret none => .ret_none
  | .ret (some p) => .ret_some p
  | .throw p => .throw p
  | .expr p => .expr p

/-- Sentences are read as their statements. -/
theorem Sentence.reads_all : ∀ ss : List Sentence,
    List.Forall₂ ReadsStatement (Sentence.wordLists ss) (Sentence.stmts ss)
  | [] => .nil
  | s :: rest => .cons s.reads (Sentence.reads_all rest)

/-- What follows the first branch is read as the further branches. -/
theorem Otherwise.reads : ∀ o : Otherwise, ReadsOtherwise o.words o.branches o.last
  | .nothing => ReadsOtherwise.nothing
  | .block b => ReadsOtherwise.block (ReadsBlock.of_statements (Sentence.reads_all b))
  | .branch c b o => ReadsOtherwise.branch c (ReadsBlock.of_statements (Sentence.reads_all b)) o.reads

end

/-! ## What can be written -/

/-- Whether some source is read as the expression. -/
def Term.Read (e : Term) : Prop :=
  ∃ source limit, parseExpression source limit = .ok e

theorem Term.Read.exists_phrase {e : Term} (h : e.Read) : ∃ p : Phrase, p.expr = e := by
  obtain ⟨source, limit, read⟩ := h
  exact (sayable_of_parseExpression read).exists_phrase

theorem exists_path {path : List PathSegment} (h : ∀ s ∈ path, s.Made Term.Read) :
    ∃ steps : List PhraseSegment, steps.map PhraseSegment.segment = path := by
  induction path with
  | nil => exact ⟨[], rfl⟩
  | cons s path ih =>
    obtain ⟨steps, rfl⟩ := ih fun s' mem => h s' (List.mem_cons_of_mem _ mem)
    cases h s List.mem_cons_self with
    | field name => exact ⟨.field ⟨_, name⟩ :: steps, rfl⟩
    | index key =>
      obtain ⟨k, rfl⟩ := key.exists_phrase
      exact ⟨.index k :: steps, rfl⟩

theorem exists_sentences {stmts : List Stmt} (h : ∀ s ∈ stmts, ∃ t : Sentence, t.stmt = s) :
    ∃ ss, Sentence.stmts ss = stmts := by
  induction stmts with
  | nil => exact ⟨[], rfl⟩
  | cons s stmts ih =>
    obtain ⟨t, rfl⟩ := h s List.mem_cons_self
    obtain ⟨ts, rfl⟩ := ih fun s' mem => h s' (List.mem_cons_of_mem _ mem)
    exact ⟨t :: ts, rfl⟩

theorem exists_otherwise {branches : List (Term × List Stmt)} {last : Option (List Stmt)}
    (conditions : ∀ b ∈ branches, b.1.Read)
    (bodies : ∀ b ∈ branches, ∀ s ∈ b.2, ∃ t : Sentence, t.stmt = s)
    (otherwise : ∀ ss, last = some ss → ∀ s ∈ ss, ∃ t : Sentence, t.stmt = s) :
    ∃ o : Otherwise, o.branches = branches ∧ o.last = last := by
  induction branches with
  | nil =>
    cases last with
    | none => exact ⟨.nothing, rfl, rfl⟩
    | some ss =>
      obtain ⟨b, rfl⟩ := exists_sentences (otherwise ss rfl)
      exact ⟨.block b, rfl, rfl⟩
  | cons branch branches ih =>
    obtain ⟨o, rfl, rfl⟩ := ih (fun b mem => conditions b (List.mem_cons_of_mem _ mem))
      (fun b mem => bodies b (List.mem_cons_of_mem _ mem))
    obtain ⟨e, ss⟩ := branch
    obtain ⟨c, rfl⟩ := (conditions (e, ss) List.mem_cons_self).exists_phrase
    obtain ⟨b, rfl⟩ := exists_sentences (bodies (_, ss) List.mem_cons_self)
    exact ⟨.branch c b o, rfl, rfl⟩

/-- **Every statement is written by a sentence** if its expressions can be read. -/
theorem Stmt.Made.exists_sentence {s : Stmt} (h : s.Made Term.Read) :
    ∃ t : Sentence, t.stmt = s := by
  induction h with
  | declare name value =>
    obtain ⟨p, rfl⟩ := value.exists_phrase
    exact ⟨.declare ⟨_, name⟩ p, rfl⟩
  | assign name steps value =>
    obtain ⟨path, rfl⟩ := exists_path steps
    obtain ⟨p, rfl⟩ := value.exists_phrase
    exact ⟨.assign ⟨_, name⟩ path p, rfl⟩
  | @branch branches last some conditions _ _ bodies otherwise =>
    cases branches with
    | nil => exact absurd rfl some
    | cons branch branches =>
      obtain ⟨o, rfl, rfl⟩ := exists_otherwise
        (fun b mem => conditions b (List.mem_cons_of_mem _ mem))
        (fun b mem => bodies b (List.mem_cons_of_mem _ mem)) otherwise
      obtain ⟨e, ss⟩ := branch
      obtain ⟨c, rfl⟩ := (conditions (e, ss) List.mem_cons_self).exists_phrase
      obtain ⟨b, rfl⟩ := exists_sentences (bodies (_, ss) List.mem_cons_self)
      exact ⟨.branch c b o, rfl⟩
  | loop name items _ ih =>
    obtain ⟨p, rfl⟩ := items.exists_phrase
    obtain ⟨b, rfl⟩ := exists_sentences ih
    exact ⟨.loop false ⟨_, name⟩ p b, rfl⟩
  | @ret value h =>
    cases value with
    | none => exact ⟨.ret none, rfl⟩
    | some e =>
      obtain ⟨p, rfl⟩ := (h e rfl).exists_phrase
      exact ⟨.ret (some p), rfl⟩
  | throw h =>
    obtain ⟨p, rfl⟩ := h.exists_phrase
    exact ⟨.throw p, rfl⟩
  | expr h =>
    obtain ⟨p, rfl⟩ := h.exists_phrase
    exact ⟨.expr p, rfl⟩

/-- The text of a script is read as its statements, with enough levels of nesting. -/
theorem parseProgram_sentences (ss : List Sentence) :
    ∀ᶠ limit in atTop, parseProgram (Sentence.write ss) limit = .ok (Sentence.stmts ss) := by
  obtain ⟨ts, stop, tokens, spelled⟩ := tokenize_joined (Sentence.wordLists ss).flatten
  filter_upwards [statements_read (Sentence.reads_all ss) spelled (Nat.lt_succ_self _)]
    with limit read
  unfold parseProgram Sentence.write
  simp only [tokens, read]
  rfl

/-- **Every script can be written and read back.** Statements whose expressions can be read are written
by sentences, and the text of sentences is read as exactly their statements under every limit that is
large enough; so a condition alone in the block of an `else` is never read as a further branch. -/
theorem parseProgram_write :
    (∀ program : Program, (∀ s ∈ program, s.Made Term.Read) →
      ∃ ss : List Sentence, Sentence.stmts ss = program) ∧
    (∀ ss : List Sentence, ∃ enough, ∀ limit ≥ enough,
      parseProgram (Sentence.write ss) limit = .ok (Sentence.stmts ss)) ∧
    ∀ (c c' : Phrase) (b b' : List Sentence) (o : Otherwise), ∃ enough, ∀ limit ≥ enough,
      parseProgram (Sentence.write [.branch c b (.block [.branch c' b' o])]) limit ≠
        parseProgram (Sentence.write [.branch c b (.branch c' b' o)]) limit := by
  refine ⟨fun program h => exists_sentences fun s mem => (h s mem).exists_sentence,
    fun ss => eventually_atTop.mp (parseProgram_sentences ss), fun c c' b b' o => ?_⟩
  refine eventually_atTop.mp ?_
  filter_upwards [parseProgram_sentences [.branch c b (.block [.branch c' b' o])],
    parseProgram_sentences [.branch c b (.branch c' b' o)]] with limit block branch
  rw [block, branch]
  simp [Sentence.stmts, Sentence.stmt, Otherwise.branches]

end Automation.Expr
