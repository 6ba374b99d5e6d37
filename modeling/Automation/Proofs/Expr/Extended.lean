import Automation.Proofs.Expr.Limit
import Automation.Proofs.Expr.Reading

/-!
# Expressions before other tokens

The rules for expressions do not tell the end of a source from other tokens that end an expression:
what they read before the end they read before such tokens as well, with the same levels of nesting
(`extending`).
-/

namespace Automation.Expr

/-! ## Tokens in place of the end -/

/-- Tokens up to the end of a source, and tokens of the same kinds with others in place of the end. -/
inductive Extends (tail : List Token) : List Token → List Token → Prop where
  | last (stop : Nat) : Extends tail [⟨.eof, stop⟩] tail
  | cons {kind : TokenKind} (pos pos' : Nat) {ts ts' : List Token} (inside : kind ≠ .eof)
    (h : Extends tail ts ts') : Extends tail (⟨kind, pos⟩ :: ts) (⟨kind, pos'⟩ :: ts')

/-- Tokens of the same kinds, with the end behind the ones and a tail behind the others. -/
theorem Extends.of_kinds {tail front front' : List Token} {stop : Nat}
    (same : front'.map Token.kind = front.map Token.kind) (inside : ∀ t ∈ front, t.kind ≠ .eof) :
    Extends tail (front ++ [⟨.eof, stop⟩]) (front' ++ tail) := by
  induction front generalizing front' with
  | nil =>
    obtain rfl : front' = [] := List.map_eq_nil_iff.mp same
    exact .last stop
  | cons t front ih =>
    obtain ⟨t', front', rfl, kind, others⟩ := List.map_eq_cons_iff.mp same
    obtain ⟨kind', pos'⟩ := t'
    obtain rfl : kind' = t.kind := kind
    exact .cons t.pos pos' (inside t List.mem_cons_self)
      (ih others fun t mem => inside t (List.mem_cons_of_mem _ mem))

/-- What a rule reads, if it reads something, another one reads as well; what they leave is
related. -/
inductive Repeats (left : List Token → List Token → Prop) : Parse α → Parse α → Prop where
  | error (e : Refusal) (r : Parse α) : Repeats left (.error e) r
  | ok (a : α) {rest rest' : List Token} (h : left rest rest') :
    Repeats left (.ok (a, rest)) (.ok (a, rest'))

theorem Repeats.andThen {left left' : List Token → List Token → Prop} {r r' : Parse α}
    {s s' : Parse β} (h : Repeats left r r') (failed : ∀ e, r = .error e → s = .error e)
    (further : ∀ a rest rest', r = .ok (a, rest) → r' = .ok (a, rest') → left rest rest' →
      Repeats left' s s') : Repeats left' s s' := by
  cases h with
  | error e =>
    rw [failed e rfl]
    exact .error _ _
  | ok a related => exact further a _ _ rfl rfl related

theorem Repeats.of_ok {left : List Token → List Token → Prop} {r r' : Parse α} {a : α}
    {rest : List Token} (h : Repeats left r r') (read : r = .ok (a, rest)) :
    ∃ rest', r' = .ok (a, rest') ∧ left rest rest' := by
  cases h with
  | error e => cases read
  | ok a related =>
    cases read
    exact ⟨_, rfl, related⟩

/-- Nothing that a rule reads before an end it does not read before other tokens. -/
def Extendable (tail : List Token) (rule : List Token → Parse α) : Prop :=
  ∀ {ts ts'}, Extends tail ts ts' → Repeats (Extends tail) (rule ts) (rule ts')

namespace Extends

variable {tail ts ts' : List Token}

/-- The first token is of the same kind, but for the tail. -/
theorem peek_kind (h : Extends tail ts ts') :
    (peek ts').kind = (peek ts).kind ∨ (peek ts).kind = .eof ∧ ts' = tail := by
  cases h with
  | last stop => exact .inr ⟨rfl, rfl⟩
  | cons pos pos' inside h => exact .inl rfl

/-- A token that is not the end stands in both. -/
theorem of_peek (h : Extends tail ts ts') (inside : (peek ts).kind ≠ .eof) :
    (peek ts').kind = (peek ts).kind ∧ Extends tail ts.tail ts'.tail := by
  cases h with
  | last stop => exact absurd rfl inside
  | cons pos pos' _ h => exact ⟨rfl, h⟩

theorem unaryOperator? (h : Extends tail ts ts') (some : (peek ts).kind ≠ .eof) :
    Expr.unaryOperator? ts = none ∧ Expr.unaryOperator? ts' = none ∨
      ∃ op mid mid', Expr.unaryOperator? ts = .some (op, mid) ∧
        Expr.unaryOperator? ts' = .some (op, mid') ∧ Extends tail mid mid' := by
  cases h with
  | last stop => exact absurd rfl some
  | @cons kind pos pos' ts ts' _ h =>
    cases kind with
    | bang => exact .inr ⟨_, _, _, rfl, rfl, h⟩
    | minus => exact .inr ⟨_, _, _, rfl, rfl, h⟩
    | _ => exact .inl ⟨rfl, rfl⟩

theorem binaryOperator? (least : Nat) (ends : Ends tail) (h : Extends tail ts ts') :
    Expr.binaryOperator? least ts = none ∧ Expr.binaryOperator? least ts' = none ∨
      ∃ op mid mid', Expr.binaryOperator? least ts = some (op, mid) ∧
        Expr.binaryOperator? least ts' = some (op, mid') ∧ Extends tail mid mid' := by
  cases h with
  | last stop => exact .inl ⟨rfl, binaryOperator?_eq_none fun op some => by
      rw [ends.2] at some
      cases some⟩
  | @cons kind pos pos' ts ts' _ h =>
    unfold Expr.binaryOperator?
    dsimp only
    split
    next op _ =>
      by_cases below : op.precedence < least
      · rw [if_pos below, if_pos below]
        exact .inl ⟨rfl, rfl⟩
      · rw [if_neg below, if_neg below]
        exact .inr ⟨_, _, _, rfl, rfl, h⟩
    next => exact .inl ⟨rfl, rfl⟩

end Extends

/-! ## Lists -/

section Lists

variable {tail : List Token}

/-- A list is read further behind an item, whatever ends it. -/
theorem items_extended {α : Type} {item : List Token → Parse α} (h : Extendable tail item)
    (ended : ∀ stop, ∃ e, item [⟨.eof, stop⟩] = .error e)
    (shorter : ∀ {ts a rest}, item ts = .ok (a, rest) → rest.length < ts.length)
    (close : TokenKind → Bool) (atEnd : close .eof = false) (what : String) (fuel : Nat)
    {fuel' : Nat} {ts ts' : List Token} (extends_ : Extends tail ts ts')
    (enough : ts'.length < fuel') :
    Repeats (Extends tail) (items item close what fuel ts) (items item close what fuel' ts') := by
  induction fuel generalizing ts ts' fuel' with
  | zero => exact .error _ _
  | succ fuel ih =>
    obtain ⟨fuel', rfl⟩ : ∃ n, fuel' = n + 1 := ⟨fuel' - 1, by omega⟩
    by_cases atLast : (peek ts).kind = .eof
    · cases extends_ with
      | last stop =>
        obtain ⟨e, failed⟩ := ended stop
        rw [items, if_neg (by simp [peek, atEnd]), failed]
        exact .error _ _
      | cons _ _ inside => exact absurd atLast inside
    obtain ⟨same, tails⟩ := extends_.of_peek atLast
    rw [items, items, same]
    by_cases closed : close (peek ts).kind = true
    · rw [if_pos closed, if_pos closed]
      exact .ok _ tails
    rw [if_neg closed, if_neg closed]
    refine (h extends_).andThen (fun e failed => by rw [failed]) ?_
    intro a rest rest' read read' extends_
    have less := shorter read'
    rw [read, read']
    cases extends_ with
    | last stop =>
      dsimp only
      rw [if_neg (by simp [peek, atEnd])]
      exact .error _ _
    | @cons kind pos pos' rest rest' inside extends_ =>
      have last : Repeats (Extends tail)
          (if close kind then .ok ([a], rest) else .error (unexpected what (⟨kind, pos⟩ :: rest)))
          (if close kind then .ok ([a], rest') else
            .error (unexpected what (⟨kind, pos'⟩ :: rest'))) := by
        by_cases closed : close kind = true
        · rw [if_pos closed, if_pos closed]
          exact .ok _ extends_
        · rw [if_neg closed, if_neg closed]
          exact .error _ _
      cases kind with
      | comma =>
        have enough : rest'.length < fuel' := by
          rw [List.length_cons] at less
          omega
        refine (ih extends_ enough).andThen (fun e failed => by simp only [failed]) ?_
        intro as rest rest' others others' extends_
        simp only [others, others']
        exact .ok _ extends_
      | _ => exact last

end Lists

/-! ## Expressions -/

/-- No expression begins at the end of a source. -/
theorem expression_end (d least stop : Nat) : ∃ e, expression d least [⟨.eof, stop⟩] = .error e := by
  rw [expression.eq_def]
  cases d with
  | zero => exact ⟨_, rfl⟩
  | succ d =>
    dsimp only
    rw [operand.eq_def]
    exact ⟨_, rfl⟩

section Expressions

variable {tail : List Token} (ends : Ends tail) (noColon : (peek tail).kind ≠ .colon)

section Around

variable {expression : List Token → Parse Term} (h : Extendable tail expression)
include h

include noColon in
theorem key_extended {kind : TokenKind} {k : String} (key : kind = .ident k ∨ kind = .string k)
    (pos pos' : Nat) {ts ts' : List Token} (extends_ : Extends tail ts ts') :
    Repeats (Extends tail) (objectField expression (⟨kind, pos⟩ :: ts))
      (objectField expression (⟨kind, pos'⟩ :: ts')) := by
  obtain rfl | rfl := key
  all_goals
    unfold objectField
    dsimp only
    cases extends_ with
    | last stop =>
      dsimp only
      split
      next key => cases key
      next pos rest key =>
        cases key
        exact absurd rfl noColon
      next key =>
        cases key
        exact .ok _ (.last stop)
    | @cons kind pos pos' ts ts' inside extends_ =>
      cases kind with
      | colon =>
        refine (h extends_).andThen (fun e failed => by simp only [failed]) ?_
        intro e rest rest' read read' extends_
        simp only [read, read']
        exact .ok _ extends_
      | _ => exact .ok _ (.cons pos pos' inside extends_)

include noColon in
theorem objectField_extended : Extendable tail (objectField expression) := by
  intro ts ts' extends_
  cases extends_ with
  | last stop => exact .error _ _
  | @cons kind pos pos' ts ts' inside extends_ =>
    cases kind with
    | ident k => exact key_extended noColon h (.inl rfl) pos pos' extends_
    | string k => exact key_extended noColon h (.inr rfl) pos pos' extends_
    | _ => exact .error _ _

end Around

section Levels

variable {d : Nat}

include noColon in
theorem primary_extended (h : Extendable tail fun ts => expression d 1 ts) :
    Extendable tail (primary fun ts => expression d 1 ts) := by
  intro ts ts' extends_
  cases extends_ with
  | last stop => exact .error _ _
  | @cons kind pos pos' ts ts' inside extends_ =>
    cases kind with
    | number | string | kwTrue | kwFalse | kwNull | ident => exact .ok _ extends_
    | leftParen =>
      refine (h extends_).andThen (fun e failed => by simp only [primary, failed]) ?_
      intro e rest rest' read read' extends_
      simp only [primary, read, read']
      cases extends_ with
      | last stop => exact .error _ _
      | @cons kind pos pos' rest rest' _ extends_ =>
        cases kind with
        | rightParen => exact .ok _ extends_
        | _ => exact .error _ _
    | leftBracket =>
      refine (items_extended h (expression_end d 1) expression_shorter isRightBracket rfl
        "',' or ']'" (ts.length + 1) extends_ (Nat.lt_succ_self _)).andThen
        (fun e failed => by simp only [primary, failed]) ?_
      intro es rest rest' read read' extends_
      simp only [primary, read, read']
      exact .ok _ extends_
    | leftBrace =>
      refine (items_extended (objectField_extended noColon h) (fun _ => ⟨_, rfl⟩)
        objectField_shorter isRightBrace rfl "',' or '\x7d'" (ts.length + 1) extends_
        (Nat.lt_succ_self _)).andThen (fun e failed => by simp only [primary, failed]) ?_
      intro fs rest rest' read read' extends_
      simp only [primary, read, read']
      exact .ok _ extends_
    | _ => exact .error _ _

theorem arguments_extended (h : Extendable tail fun ts => expression d 1 ts) :
    Extendable tail (arguments fun ts => expression d 1 ts) := fun {ts _} extends_ =>
  items_extended h (expression_end d 1) expression_shorter _ rfl "',' or ')'" (ts.length + 1) extends_
    (Nat.lt_succ_self _)

end Levels

/-- The rules for expressions with some levels of nesting read the same before a tail. -/
structure Extending (tail : List Token) (d : Nat) : Prop where
  expression : ∀ least, Extendable tail (Expr.expression d least)
  chain : ∀ least left, Extendable tail (Expr.chain d least left)
  operand : Extendable tail (Expr.operand d)
  suffixes : ∀ head, Extendable tail (Expr.suffixes d head)

section Rules

/- A rule goes on with one level less, if there is one. -/
variable {d : Nat} (less : ∀ n, d = n + 1 → Extending tail n)
include less

theorem expression_extended (least : Nat) : Extendable tail (expression d least) := by
  intro ts ts' extends_
  rw [expression.eq_def, expression.eq_def]
  split
  next => exact .error _ _
  next d =>
    refine ((less d rfl).operand extends_).andThen (fun e failed => by rw [failed]) ?_
    intro left rest rest' read read' extends_
    simp only [read, read']
    exact (less d rfl).chain least left extends_

include ends in
theorem chain_extended (least : Nat) (left : Term) : Extendable tail (chain d least left) := by
  intro ts ts' extends_
  rw [chain.eq_def, chain.eq_def]
  rcases extends_.binaryOperator? least ends with
    ⟨none, none'⟩ | ⟨op, mid, mid', some, some', extends_⟩
  · rw [none, none']
    exact .ok _ extends_
  · rw [some, some']
    dsimp only
    split
    next => exact .error _ _
    next d =>
      refine ((less d rfl).expression (op.precedence + 1) extends_).andThen
        (fun e failed => by simp only [failed]) ?_
      intro right rest rest' read read' extends_
      simp only [read, read']
      exact (less d rfl).chain least _ extends_

include ends noColon in
/-- Behind a point comes a member, a call or a position. -/
theorem point_extended (head : Term) (pos pos' : Nat) {ts ts' : List Token}
    (extends_ : Extends tail ts ts') :
    Repeats (Extends tail) (suffixes d head (⟨.dot, pos⟩ :: ts))
      (suffixes d head (⟨.dot, pos'⟩ :: ts')) := by
  cases d with
  | zero =>
    rw [suffixes.eq_def]
    exact .error _ _
  | succ d =>
    cases extends_ with
    | last stop =>
      rw [suffixes.eq_def]
      exact .error _ _
    | @cons kind _ _ ts ts' _ extends_ =>
      cases kind with
      | ident f =>
        by_cases call : (peek ts).kind = .leftParen
        · cases extends_ with
          | last stop => cases call
          | @cons kind _ _ ts ts' _ extends_ =>
            obtain rfl : kind = .leftParen := call
            rw [suffixes.eq_def, suffixes.eq_def]
            refine (arguments_extended ((less d rfl).expression 1) extends_).andThen
              (fun e failed => by simp only [failed]) ?_
            intro args rest rest' read read' extends_
            simp only [read, read']
            exact (less d rfl).suffixes _ extends_
        · have noCall : (peek ts').kind ≠ .leftParen := by
            rcases extends_.peek_kind with same | ⟨-, rfl⟩
            · rwa [same]
            · intro call
              have plain := ends.1
              rw [call] at plain
              cases plain
          rw [suffixes_member call rfl, suffixes_member noCall rfl]
          exact (less d rfl).suffixes _ extends_
      | number v =>
        rw [suffixes.eq_def, suffixes.eq_def]
        exact (less d rfl).suffixes _ extends_
      | _ =>
        rw [suffixes.eq_def]
        exact .error _ _

include ends noColon in
theorem suffixes_extended (head : Term) : Extendable tail (suffixes d head) := by
  intro ts ts' extends_
  cases extends_ with
  | last stop =>
    rw [suffixes_stop rfl, suffixes_stop ends.1]
    exact .ok _ (.last stop)
  | @cons kind pos pos' ts ts' inside extends_ =>
    cases kind with
    | dot => exact point_extended ends noColon less head pos pos' extends_
    | leftBracket =>
      rw [suffixes.eq_def, suffixes.eq_def]
      cases d with
      | zero => exact .error _ _
      | succ d =>
        refine ((less d rfl).expression 1 extends_).andThen
          (fun e failed => by simp only [failed]) ?_
        intro i rest rest' read read' extends_
        simp only [read, read']
        cases extends_ with
        | last stop => exact .error _ _
        | @cons kind _ _ rest rest' _ extends_ =>
          cases kind with
          | rightBracket => exact (less d rfl).suffixes _ extends_
          | _ => exact .error _ _
    | leftParen =>
      rw [suffixes.eq_def, suffixes.eq_def]
      cases d with
      | zero => exact .error _ _
      | succ d =>
        cases head with
        | ident f =>
          refine (arguments_extended ((less d rfl).expression 1) extends_).andThen
            (fun e failed => by simp only [failed]) ?_
          intro args rest rest' read read' extends_
          simp only [read, read']
          exact (less d rfl).suffixes _ extends_
        | _ => exact .error _ _
    | _ =>
      rw [suffixes_stop rfl, suffixes_stop rfl]
      exact .ok _ (.cons pos pos' inside extends_)

include ends noColon in
theorem operand_extended : Extendable tail (operand d) := by
  intro ts ts' extends_
  rw [operand.eq_def, operand.eq_def]
  by_cases atLast : (peek ts).kind = .eof
  · cases extends_ with
    | last stop => exact .error _ _
    | cons _ _ inside => exact absurd atLast inside
  rcases extends_.unaryOperator? atLast with ⟨none, none'⟩ | ⟨op, mid, mid', some, some', extends_⟩
  · rw [none, none']
    refine (primary_extended noColon (expression_extended less 1) extends_).andThen
      (fun e failed => by simp only [failed]) ?_
    intro e rest rest' read read' extends_
    simp only [read, read']
    exact suffixes_extended ends noColon less e extends_
  · rw [some, some']
    dsimp only
    split
    next => exact .error _ _
    next d =>
      refine ((less d rfl).operand extends_).andThen (fun e failed => by simp only [failed]) ?_
      intro e rest rest' read read' extends_
      simp only [read, read']
      exact .ok _ extends_

end Rules

include ends noColon in
/-- **What the rules for expressions read before the end of a source they read before other tokens that
end an expression.** -/
theorem extending (d : Nat) : Extending tail d := by
  induction d with
  | zero =>
    have less (n : Nat) (h : 0 = n + 1) : Extending tail n := by cases h
    exact ⟨expression_extended less, chain_extended ends less, operand_extended ends noColon less,
      suffixes_extended ends noColon less⟩
  | succ d ih =>
    have less (n : Nat) (h : d + 1 = n + 1) : Extending tail n := by
      cases h
      exact ih
    exact ⟨expression_extended less, chain_extended ends less, operand_extended ends noColon less,
      suffixes_extended ends noColon less⟩

end Expressions

end Automation.Expr
