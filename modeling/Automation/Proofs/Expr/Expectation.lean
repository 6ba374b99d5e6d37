import Automation.Proofs.Expr.Reading

/-!
# What may follow

Which tokens may follow the beginning of an expression, said without the grammar's recursion. An
`Expectation` is what the tokens so far leave open: the brackets that are not closed yet, the place in
the innermost of them, and what an opening parenthesis would call. A token either changes the
expectation or cannot follow (`Expectation.step`). Whatever is expected, some tokens bring it to the
end of an expression (`Expectation.run_completion`), so a beginning that no token was out of place in
can always be gone on with.
-/

namespace Automation.Expr

/-! ## Brackets and places -/

/-- What a pair of brackets stands around. -/
inductive Bracket where
  /-- An expression between parentheses. -/
  | group
  /-- The key of an index. -/
  | index
  | arguments
  | array
  | object

namespace Bracket

/-- The token that closes the bracket. -/
def closing : Bracket → TokenKind
  | group | arguments => .rightParen
  | index | array => .rightBracket
  | object => .rightBrace

/-- Whether a token closes the bracket. -/
def closedBy : Bracket → TokenKind → Bool
  | group | arguments => isRightParen
  | index | array => isRightBracket
  | object => isRightBrace

/-- Whether there are commas in the bracket. -/
def separated : Bracket → Bool
  | group | index => false
  | arguments | array | object => true

theorem closedBy_comma (b : Bracket) : b.closedBy .comma = false := by
  cases b <;> rfl

theorem closedBy_eof (b : Bracket) : b.closedBy .eof = false := by
  cases b <;> rfl

end Bracket

/-- What an opening parenthesis behind an operand calls. -/
inductive Callee where
  | nothing
  /-- The name behind a point. -/
  | method
  /-- The operand, which is a name. -/
  | name
  deriving DecidableEq

/-- A place in the innermost brackets. -/
inductive Place where
  | operand
  /-- Before an item or the end of the list in a bracket. -/
  | item (list : Bracket)
  /-- Behind the key of a field. -/
  | key
  /-- Behind a point. -/
  | property
  /-- Behind an operand. -/
  | behind (callee : Callee)

/-- What the tokens so far leave open. -/
structure Expectation where
  place : Place
  /-- Whether there is no operator in the innermost brackets so far, so that they are around one
  operand. -/
  single : Bool
  /-- The open brackets, from inside out, with what is `single` around each. -/
  around : List (Bracket × Bool)

namespace Expectation

/-! ## Steps -/

/-- What the first token of an operand leads to. -/
def opened (single : Bool) (around : List (Bracket × Bool)) : TokenKind → Option Expectation
  | .number _ | .string _ | .kwTrue | .kwFalse | .kwNull => some ⟨.behind .nothing, single, around⟩
  | .ident _ => some ⟨.behind .name, single, around⟩
  | .leftParen => some ⟨.operand, true, (.group, single) :: around⟩
  | .leftBracket => some ⟨.item .array, single, around⟩
  | .leftBrace => some ⟨.item .object, single, around⟩
  | .bang | .minus => some ⟨.operand, false, around⟩
  | _ => none

/-- What the end of a bracket leads to: a name between parentheses is still called. -/
def closed (bracket : Bracket) (whole : Bool) (callee : Callee) (single : Bool)
    (around : List (Bracket × Bool)) : Expectation :=
  match bracket, whole, callee with
  | .group, true, .name => ⟨.behind .name, single, around⟩
  | _, _, _ => ⟨.behind .nothing, single, around⟩

/-- What leaves an operand for the brackets around it: a comma or the end of the innermost ones. -/
def left (whole : Bool) (callee : Callee) :
    List (Bracket × Bool) → TokenKind → Option Expectation
  | [], _ => none
  | (bracket, single) :: around, kind =>
    if bracket.closedBy kind then some (closed bracket whole callee single around)
    else
      match kind with
      | .comma => if bracket.separated then some ⟨.item bracket, single, around⟩ else none
      | _ => none

/-- What a token leads to, if it may follow. -/
def step (x : Expectation) (kind : TokenKind) : Option Expectation :=
  match x.place with
  | .operand => opened x.single x.around kind
  | .item list =>
    if list.closedBy kind then some ⟨.behind .nothing, x.single, x.around⟩
    else
      match list, kind with
      | .object, .ident _ | .object, .string _ => some ⟨.key, x.single, x.around⟩
      | .object, _ => none
      | _, _ => opened false ((list, x.single) :: x.around) kind
  | .key =>
    match kind with
    | .colon => some ⟨.operand, false, (.object, x.single) :: x.around⟩
    | _ => left false .nothing ((.object, x.single) :: x.around) kind
  | .property =>
    match kind with
    | .ident _ => some ⟨.behind .method, x.single, x.around⟩
    | .number _ => some ⟨.behind .nothing, x.single, x.around⟩
    | _ => none
  | .behind callee =>
    match kind with
    | .dot => some ⟨.property, x.single, x.around⟩
    | .leftBracket => some ⟨.operand, false, (.index, x.single) :: x.around⟩
    | .leftParen =>
      match callee with
      | .nothing => none
      | _ => some ⟨.item .arguments, x.single, x.around⟩
    | _ =>
      match BinaryOp.ofToken? kind with
      | some _ => some ⟨.operand, false, x.around⟩
      | none => left x.single callee x.around kind

/-- What tokens lead to one after another, if each may follow the ones before it. -/
def run (x : Expectation) (kinds : List TokenKind) : Option Expectation :=
  kinds.foldlM step x

/-- Nothing was read of an expression. -/
def start : Expectation := ⟨.operand, true, []⟩

/-- Whether what was read so far is an expression. -/
def Complete (x : Expectation) : Prop :=
  ∃ callee, x.place = .behind callee ∧ x.around = []

/-- A token may not follow, and the end not either while an expression is not complete. -/
def Refuses (x : Expectation) (kind : TokenKind) : Prop :=
  x.step kind = none ∧ (kind = .eof → ¬ x.Complete)

@[simp] theorem run_nil (x : Expectation) : x.run [] = some x := rfl

@[simp] theorem run_cons (x : Expectation) (kind : TokenKind) (kinds : List TokenKind) :
    x.run (kind :: kinds) = (x.step kind).bind (·.run kinds) := rfl

theorem run_append (x : Expectation) (kinds more : List TokenKind) :
    x.run (kinds ++ more) = (x.run kinds).bind (·.run more) :=
  List.foldlM_append

/-- The end of a source never follows as a token. -/
@[simp] theorem step_eof (x : Expectation) : x.step .eof = none := by
  have outside (whole : Bool) (callee : Callee) (around : List (Bracket × Bool)) :
      left whole callee around .eof = none := by
    rcases around with _ | ⟨⟨bracket, single⟩, around⟩
    · rfl
    · cases bracket <;> rfl
  obtain ⟨place, single, around⟩ := x
  cases place with
  | operand => rfl
  | item list => cases list <;> rfl
  | key => exact outside false .nothing ((.object, single) :: around)
  | property => rfl
  | behind callee => exact outside single callee around

/-- Tokens that follow one another are not the end of a source. -/
theorem ne_eof_of_run {x y : Expectation} {kinds : List TokenKind} (led : x.run kinds = some y) :
    ∀ kind ∈ kinds, kind ≠ .eof := by
  induction kinds generalizing x with
  | nil => exact fun kind mem => absurd mem List.not_mem_nil
  | cons k kinds ih =>
    obtain ⟨z, first, others⟩ := Option.bind_eq_some_iff.mp led
    intro kind mem
    rcases List.mem_cons.mp mem with rfl | mem
    · rintro rfl
      rw [step_eof] at first
      cases first
    · exact ih others kind mem

section Left

variable {bracket : Bracket} {whole single : Bool} {callee : Callee}
  {around : List (Bracket × Bool)} {kind : TokenKind}

theorem left_comma (separated : bracket.separated = true) :
    left whole callee ((bracket, single) :: around) .comma =
      some ⟨.item bracket, single, around⟩ := by
  simp [left, Bracket.closedBy_comma, separated]

theorem left_close (close : bracket.closedBy kind = true) :
    left whole callee ((bracket, single) :: around) kind =
      some (closed bracket whole callee single around) := by
  simp [left, close]

/-- Brackets are left with a comma or their end only. -/
theorem left_eq_none (goesOn : bracket.closedBy kind = false)
    (comma : kind ≠ .comma ∨ bracket.separated = false) :
    left whole callee ((bracket, single) :: around) kind = none := by
  unfold left
  dsimp only
  rw [if_neg (by simp [goesOn])]
  split
  next =>
    rcases comma with other | plain
    · exact absurd rfl other
    · simp [plain]
  next => rfl

/-- The end of a list is not called. -/
theorem closed_list (separated : bracket.separated = true) :
    closed bracket whole callee single around = ⟨.behind .nothing, single, around⟩ := by
  cases bracket <;> first | rfl | cases separated

/-- Behind an operand an expression is gone on with by an operator or a suffix; any other token has to
leave it. -/
theorem step_behind (suffix : kind.isSuffix = false) (operator : BinaryOp.ofToken? kind = none) :
    (⟨.behind callee, single, around⟩ : Expectation).step kind = left single callee around kind := by
  cases kind with
  | dot | leftBracket | leftParen => cases suffix
  | _ => simp only [step, operator]

theorem step_operator {op : BinaryOp} (operator : BinaryOp.ofToken? kind = some op) :
    (⟨.behind callee, single, around⟩ : Expectation).step kind =
      some ⟨.operand, false, around⟩ := by
  cases kind with
  | dot | leftBracket | leftParen => cases operator
  | _ => simp only [step, operator]

/-- What leaves brackets is no operator and no suffix. -/
theorem step_closing (close : bracket.closedBy kind = true) :
    (⟨.behind callee, single, around⟩ : Expectation).step kind = left single callee around kind := by
  cases bracket <;> cases kind <;> first | rfl | cases close

theorem not_complete_of_around {x : Expectation} (h : x.around ≠ []) : ¬ x.Complete := by
  rintro ⟨-, -, none⟩
  exact h none

theorem not_complete_of_place {x : Expectation} (h : ∀ callee, x.place ≠ .behind callee) :
    ¬ x.Complete := by
  rintro ⟨callee, place, -⟩
  exact h callee place

/-- A token that may not follow where more has to is refused. -/
theorem refuses_of_place {x : Expectation} {kind : TokenKind} (stuck : x.step kind = none)
    (h : ∀ callee, x.place ≠ .behind callee) : x.Refuses kind :=
  ⟨stuck, fun _ => not_complete_of_place h⟩

end Left

/-! ## Going on to the end -/

/-- The tokens that close brackets. -/
def closings (around : List (Bracket × Bool)) : List TokenKind :=
  around.map fun b => b.1.closing

/-- Tokens that bring an expression to its end. -/
def completion (x : Expectation) : List TokenKind :=
  match x.place with
  | .operand => .kwNull :: closings x.around
  | .item list => list.closing :: closings x.around
  | .key => .rightBrace :: closings x.around
  | .property => .ident "x" :: closings x.around
  | .behind _ => closings x.around

/-- Behind an operand the brackets around it can be closed. -/
theorem run_closings (callee : Callee) (single : Bool) (around : List (Bracket × Bool)) :
    ∃ y, (⟨.behind callee, single, around⟩ : Expectation).run (closings around) = some y ∧
      y.Complete := by
  induction around generalizing callee single with
  | nil => exact ⟨_, rfl, callee, rfl, rfl⟩
  | cons b around ih =>
    obtain ⟨bracket, outer⟩ := b
    have out : (⟨.behind callee, single, (bracket, outer) :: around⟩ : Expectation).step
        bracket.closing = some (closed bracket single callee outer around) := by
      cases bracket <;> rfl
    obtain ⟨callee', same⟩ : ∃ callee', closed bracket single callee outer around =
        ⟨.behind callee', outer, around⟩ := by
      unfold closed
      split <;> exact ⟨_, rfl⟩
    obtain ⟨y, closes, complete⟩ := ih callee' outer
    refine ⟨y, ?_, complete⟩
    rw [closings, List.map_cons, run_cons, out, same]
    exact closes

/-- **Whatever is expected, an expression can be completed.** -/
theorem run_completion (x : Expectation) : ∃ y, x.run x.completion = some y ∧ y.Complete := by
  obtain ⟨place, single, around⟩ := x
  cases place with
  | operand => exact run_closings .nothing single around
  | item list =>
    have out : (⟨.item list, single, around⟩ : Expectation).step list.closing =
        some ⟨.behind .nothing, single, around⟩ := by
      cases list <;> rfl
    rw [completion, run_cons, out]
    exact run_closings .nothing single around
  | key => exact run_closings .nothing single around
  | property => exact run_closings .method single around
  | behind callee => exact run_closings callee single around

end Expectation

end Automation.Expr
