import Automation.Proofs.Expr.Expectation
import Automation.Proofs.Expr.Levels
import Automation.Proofs.Expr.Reading

/-!
# Rules that meet what is expected

Every rule of the grammar for expressions meets what the tokens before it leave open (`guided`). It
refuses a token that may not follow, and no token before that one; and what it reads leads to the place
behind an expression. So no rule looks past a token that it blames.
-/

namespace Automation.Expr

/-! ## Rules that meet an expectation -/

/-- Whether a fault is that a token of the kind is out of place. -/
def Fault.Blames : Fault → TokenKind → Prop
  | expected _ found, kind => found = kind
  | notCallable, kind => kind = .leftParen
  | _, _ => False

/-- What a rule answers on tokens meets an expectation: a refusal is at a token that may not follow,
and what was read leads to another expectation. -/
inductive Meets (x : Expectation) (ts : List Token) (P : α → Expectation → List Token → Prop) :
    Parse α → Prop where
  | tooDeep : Meets x ts P (.error .tooDeep)
  | stuck {before after : List Token} {y : Expectation} {fault : Fault} (split : ts = before ++ after)
    (led : x.run (before.map Token.kind) = some y) (refused : y.Refuses (peek after).kind)
    (blames : fault.Blames (peek after).kind) :
    Meets x ts P (.error (.malformed (peek after).pos fault))
  | ok {before rest : List Token} {y : Expectation} {a : α} (split : ts = before ++ rest)
    (led : x.run (before.map Token.kind) = some y) (holds : P a y rest) : Meets x ts P (.ok (a, rest))

namespace Meets

variable {x y : Expectation} {ts rest : List Token} {P : α → Expectation → List Token → Prop}
  {Q : β → Expectation → List Token → Prop} {r : Parse α} {r' : Parse β}

theorem done {a : α} (h : P a x ts) : Meets x ts P (.ok (a, ts)) :=
  .ok (List.nil_append ts).symm rfl h

theorem unexpected (what : String) (refused : x.Refuses (peek ts).kind) :
    Meets x ts P (.error (unexpected what ts)) :=
  .stuck (List.nil_append ts).symm rfl refused rfl

theorem mono {P' : α → Expectation → List Token → Prop} (h : Meets x ts P r)
    (imp : ∀ a y rest, P a y rest → P' a y rest) : Meets x ts P' r := by
  cases h with
  | tooDeep => exact .tooDeep
  | stuck split led refused blames => exact .stuck split led refused blames
  | ok split led holds => exact .ok split led (imp _ _ _ holds)

/-- Only the first token that a rule reads counts for what leads to it. -/
theorem first (h : Meets y ts P r) (same : x.step (peek ts).kind = y.step (peek ts).kind)
    (inside : (peek ts).kind = .eof → ¬ x.Complete)
    (shorter : ∀ {a rest}, r = .ok (a, rest) → rest.length < ts.length) : Meets x ts P r := by
  have through {before after : List Token} {z : Expectation} (split : ts = before ++ after)
      (some : before ≠ []) (led : y.run (before.map Token.kind) = .some z) :
      x.run (before.map Token.kind) = .some z := by
    subst split
    cases before with
    | nil => exact absurd rfl some
    | cons t before =>
      rw [List.map_cons, Expectation.run_cons] at led ⊢
      rwa [show x.step t.kind = y.step t.kind from same]
  cases h with
  | tooDeep => exact .tooDeep
  | @stuck before after z fault split led refused blames =>
    by_cases none : before = []
    · subst none
      obtain rfl : ts = after := split
      obtain rfl : y = z := Option.some.inj led
      exact .stuck (List.nil_append _).symm rfl ⟨same.trans refused.1, inside⟩ blames
    · exact .stuck split (through split none led) refused blames
  | @ok before rest z a split led holds =>
    have some : before ≠ [] := by
      intro none
      have less := shorter rfl
      rw [split, none, List.nil_append] at less
      exact Nat.lt_irrefl _ less
    exact .ok split (through split some led) holds

/-- Behind tokens that may follow. -/
theorem append {before : List Token} (led : x.run (before.map Token.kind) = some y)
    (h : Meets y rest P r) : Meets x (before ++ rest) P r := by
  have through {more : List Token} {z : Expectation} (led' : y.run (more.map Token.kind) = some z) :
      x.run ((before ++ more).map Token.kind) = some z := by
    rw [List.map_append, Expectation.run_append, led]
    exact led'
  cases h with
  | tooDeep => exact .tooDeep
  | stuck split led' refused blames =>
    exact .stuck (by rw [split, List.append_assoc]) (through led') refused blames
  | ok split led' holds => exact .ok (by rw [split, List.append_assoc]) (through led') holds

/-- Behind a token that may follow. -/
theorem cons {t : Token} (led : x.step t.kind = some y) (h : Meets y rest P r) :
    Meets x (t :: rest) P r := by
  have one : x.run ([t].map Token.kind) = some y := by simp [led]
  exact append one h

/-- One rule after another one. -/
theorem andThen (h : Meets x ts P r) (failed : ∀ e, r = .error e → r' = .error e)
    (further : ∀ a y rest, r = .ok (a, rest) → P a y rest → Meets y rest Q r') :
    Meets x ts Q r' := by
  cases h with
  | tooDeep =>
    rw [failed _ rfl]
    exact .tooDeep
  | stuck split led refused blames =>
    rw [failed _ rfl]
    exact .stuck split led refused blames
  | ok split led holds =>
    rw [split]
    exact append led (further _ _ _ rfl holds)

end Meets

/-! ## Places -/

/-- The place behind a head that suffixes may follow, between brackets. It is called if it is a name,
and the call of a method has been looked for. -/
def BehindHead (single : Bool) (around : List (Bracket × Bool)) (head : Term) (y : Expectation)
    (rest : List Token) : Prop :=
  ∃ callee, y = ⟨.behind callee, single, around⟩ ∧ (callee = .name ↔ ∃ f, head = .ident f) ∧
    (callee = .method → (peek rest).kind ≠ .leftParen)

/-- The place behind an expression between brackets. It can be called from outside of them if it is a
name that stands there alone. -/
def Behind (single : Bool) (around : List (Bracket × Bool)) (e : Term) (y : Expectation) : Prop :=
  ∃ callee single', y = ⟨.behind callee, single', around⟩ ∧
    (single' = true ∧ callee = .name ↔ single = true ∧ ∃ f, e = .ident f)

theorem BehindHead.behind {single : Bool} {around : List (Bracket × Bool)} {e : Term}
    {y : Expectation} {rest : List Token} (h : BehindHead single around e y rest) :
    Behind single around e y := by
  obtain ⟨callee, rfl, name, -⟩ := h
  exact ⟨callee, single, rfl, and_congr_right fun _ => name⟩

/-- Tokens that do not go on with an expression whose operators bind at least as tightly as asked. -/
def Stops (least : Nat) (ts : List Token) : Prop :=
  (peek ts).kind.isSuffix = false ∧
    ∀ op ∈ BinaryOp.ofToken? (peek ts).kind, op.precedence < least

theorem Stops.ends {ts : List Token} (h : Stops 1 ts) : Ends ts := by
  refine ⟨h.1, ?_⟩
  cases operator : BinaryOp.ofToken? (peek ts).kind with
  | none => rfl
  | some op =>
    have below := h.2 op operator
    have bounds := op.precedence_bounds
    omega

/-! ## Lists -/

/-- The place behind an item of a list: a comma leads to the next item, a closing token out of the
list, and nothing else may follow. -/
structure BehindItem (list : Bracket) (single : Bool) (around : List (Bracket × Bool))
    (y : Expectation) (rest : List Token) : Prop where
  comma : y.step .comma = some ⟨.item list, single, around⟩
  close : ∀ kind, list.closedBy kind = true → y.step kind = some ⟨.behind .nothing, single, around⟩
  other : (peek rest).kind ≠ .comma → list.closedBy (peek rest).kind = false →
    y.Refuses (peek rest).kind

section Lists

variable {single : Bool} {around : List (Bracket × Bool)}

/-- Behind an item a list is left like any brackets. -/
theorem BehindItem.of_left {list : Bracket} {y : Expectation} {rest : List Token}
    (separated : list.separated = true)
    (leaves : ∀ kind, kind = .comma ∨ list.closedBy kind = true ∨ kind = (peek rest).kind →
      ∃ whole callee, y.step kind = Expectation.left whole callee ((list, single) :: around) kind)
    (inside : ¬ y.Complete) : BehindItem list single around y rest := by
  refine ⟨?_, fun kind close => ?_, fun comma goesOn => ⟨?_, fun _ => inside⟩⟩
  · obtain ⟨whole, callee, same⟩ := leaves .comma (.inl rfl)
    rw [same, Expectation.left_comma separated]
  · obtain ⟨whole, callee, same⟩ := leaves kind (.inr (.inl close))
    rw [same, Expectation.left_close close, Expectation.closed_list separated]
  · obtain ⟨whole, callee, same⟩ := leaves _ (.inr (.inr rfl))
    rw [same, Expectation.left_eq_none goesOn (.inl comma)]

theorem step_item_close {list : Bracket} {kind : TokenKind} (h : list.closedBy kind = true) :
    (⟨.item list, single, around⟩ : Expectation).step kind =
      some ⟨.behind .nothing, single, around⟩ := by
  simp [Expectation.step, h]

/-- A token that closes a bracket stands there. -/
theorem exists_cons_of_closedBy {list : Bracket} {ts : List Token}
    (h : list.closedBy (peek ts).kind = true) : ∃ t rest, ts = t :: rest := by
  cases ts with
  | nil =>
    rw [show (peek []).kind = .eof from rfl, Bracket.closedBy_eof] at h
    cases h
  | cons t rest => exact ⟨t, rest, rfl⟩

/-- **A list meets what is expected** if its items do, by induction on the tokens that are left. -/
theorem items_meets {α : Type} {item : List Token → Parse α} (list : Bracket) (what : String)
    (h : ∀ ts, list.closedBy (peek ts).kind = false → Meets ⟨.item list, single, around⟩ ts
      (fun _ y rest => BehindItem list single around y rest) (item ts))
    (shorter : ∀ {ts a rest}, item ts = .ok (a, rest) → rest.length < ts.length) (fuel : Nat)
    (ts : List Token) (enough : ts.length < fuel) :
    Meets ⟨.item list, single, around⟩ ts (fun _ y _ => y = ⟨.behind .nothing, single, around⟩)
      (items item list.closedBy what fuel ts) := by
  induction fuel generalizing ts with
  | zero => exact absurd enough (Nat.not_lt_zero _)
  | succ fuel ih =>
    rw [items]
    split
    next close =>
      obtain ⟨t, rest, rfl⟩ := exists_cons_of_closedBy close
      exact .cons (step_item_close close) (.done rfl)
    next goesOn =>
      refine (h ts (Bool.not_eq_true _ ▸ goesOn)).andThen (fun e failed => by rw [failed]) ?_
      intro a y rest read behind
      have less := shorter read
      rw [read]
      dsimp only
      split
      next pos rest =>
        refine .cons behind.comma ((ih rest ?_).andThen (fun e failed => by rw [failed]) ?_)
        · rw [List.length_cons] at less
          omega
        · intro as y rest read same
          rw [read]
          exact .done same
      next other =>
        split
        next close =>
          obtain ⟨t, rest, rfl⟩ := exists_cons_of_closedBy close
          exact .cons (behind.close _ close) (.done rfl)
        next open_ =>
          refine .unexpected what (behind.other (fun comma => ?_) (Bool.not_eq_true _ ▸ open_))
          cases rest with
          | nil => cases comma
          | cons t rest =>
            obtain ⟨kind, pos⟩ := t
            obtain rfl : kind = .comma := comma
            exact other pos rest rfl

end Lists

/-! ## Rules around an expression -/

/-- A rule for expressions that may hold any operators meets what is expected. -/
def ExpressionMeets (expression : List Token → Parse Term) : Prop :=
  ∀ single around ts, Meets ⟨.operand, single, around⟩ ts
    (fun e y rest => Behind single around e y ∧ Stops 1 rest) (expression ts)

section Around

variable {expression : List Token → Parse Term} {single : Bool} {around : List (Bracket × Bool)}
  (h : ExpressionMeets expression)

theorem behindItem_of_stops {list : Bracket} {e : Term} {y : Expectation} {rest : List Token}
    (separated : list.separated = true) (behind : Behind false ((list, single) :: around) e y)
    (stops : Stops 1 rest) : BehindItem list single around y rest := by
  obtain ⟨callee, whole, rfl, -⟩ := behind
  refine .of_left separated (fun kind which => ⟨whole, callee, ?_⟩)
    (Expectation.not_complete_of_around (List.cons_ne_nil _ _))
  rcases which with rfl | close | rfl
  · rfl
  · exact Expectation.step_closing close
  · exact Expectation.step_behind stops.ends.1 stops.ends.2

include h

/-- An item of a list of expressions begins as an expression does. -/
theorem item_meets {list : Bracket} (separated : list.separated = true) (ne : list ≠ .object)
    (shorter : ∀ {ts e rest}, expression ts = .ok (e, rest) → rest.length < ts.length)
    (ts : List Token) (goesOn : list.closedBy (peek ts).kind = false) :
    Meets ⟨.item list, single, around⟩ ts
      (fun _ y rest => BehindItem list single around y rest) (expression ts) := by
  have inner := (h false ((list, single) :: around) ts).mono fun e y rest behind =>
    behindItem_of_stops separated behind.1 behind.2
  refine inner.first ?_ (fun _ => Expectation.not_complete_of_place (by simp)) shorter
  cases list with
  | group | index => cases separated
  | object => exact absurd rfl ne
  | arguments | array =>
    simp only [Expectation.step, goesOn, Bool.false_eq_true, if_false]

/-- A key with a colon is followed by an expression, and one without is the whole field. -/
theorem key_meets {kind : TokenKind} {k : String} (key : kind = .ident k ∨ kind = .string k)
    (pos : Nat) (ts : List Token) :
    Meets ⟨.key, single, around⟩ ts (fun _ y rest => BehindItem .object single around y rest)
      (objectField expression (⟨kind, pos⟩ :: ts)) := by
  obtain rfl | rfl := key
  all_goals
    unfold objectField
    dsimp only
    split
    next key => cases key
    next pos rest key =>
      cases key
      refine .cons rfl ((h _ _ rest).andThen (fun e failed => by rw [failed]) ?_)
      intro e y rest read behind
      rw [read]
      exact .done (behindItem_of_stops rfl behind.1 behind.2)
    next rest plain key =>
      cases key
      refine .done (.of_left rfl (fun kind which => ⟨false, .nothing, ?_⟩)
        (Expectation.not_complete_of_place (by simp)))
      have noColon : kind ≠ .colon := by
        rcases which with rfl | close | rfl
        · simp
        · rintro rfl
          cases close
        · intro colon
          cases ts with
          | nil => cases colon
          | cons t ts =>
            obtain ⟨kind, pos⟩ := t
            obtain rfl : kind = .colon := colon
            exact plain _ _ rfl
      simp only [Expectation.step]

/-- A field meets what is expected where an item of an object may stand. -/
theorem field_meets (ts : List Token) (goesOn : Bracket.object.closedBy (peek ts).kind = false) :
    Meets ⟨.item .object, single, around⟩ ts
      (fun _ y rest => BehindItem .object single around y rest) (objectField expression ts) := by
  have inside : ¬ (⟨.item .object, single, around⟩ : Expectation).Complete :=
    Expectation.not_complete_of_place (by simp)
  rcases ts with _ | ⟨⟨kind, pos⟩, ts⟩
  · exact .unexpected _ ⟨rfl, fun _ => inside⟩
  cases kind with
  | ident k => exact .cons rfl (key_meets h (.inl rfl) pos ts)
  | string k => exact .cons rfl (key_meets h (.inr rfl) pos ts)
  | rightBrace => cases goesOn
  | _ => exact .unexpected _ ⟨rfl, fun _ => inside⟩

end Around

/-- Brackets around one expression are refused at any token but their end. -/
theorem refuses_unclosed {bracket : Bracket} {callee : Callee} {whole single : Bool}
    {around : List (Bracket × Bool)} {rest : List Token} (plain : bracket.separated = false)
    (stops : Stops 1 rest) (goesOn : bracket.closedBy (peek rest).kind = false) :
    (⟨.behind callee, whole, (bracket, single) :: around⟩ : Expectation).Refuses (peek rest).kind :=
  ⟨(Expectation.step_behind stops.ends.1 stops.ends.2).trans
    (Expectation.left_eq_none goesOn (.inr plain)),
    fun _ => Expectation.not_complete_of_around (List.cons_ne_nil _ _)⟩

theorem closedBy_of_ne {ts : List Token} {bracket : Bracket}
    (other : ∀ pos rest, ts ≠ ⟨bracket.closing, pos⟩ :: rest) :
    bracket.closedBy (peek ts).kind = false := by
  rcases ts with _ | ⟨⟨kind, pos⟩, ts⟩
  · exact bracket.closedBy_eof
  · cases h : bracket.closedBy kind with
    | false => exact h
    | true =>
      have same : kind = bracket.closing := by
        cases bracket <;> cases kind <;> first | rfl | cases h
      exact absurd (by rw [same]) (other pos ts)

/-! ## Rules with some levels of nesting -/

/-- A head of suffixes that is no name is not called. -/
theorem BehindHead.of_other {single : Bool} {around : List (Bracket × Bool)} {e : Term}
    {rest : List Token} (other : ∀ f, e ≠ .ident f) :
    BehindHead single around e ⟨.behind .nothing, single, around⟩ rest :=
  ⟨.nothing, rfl, ⟨by simp, fun ⟨f, same⟩ => absurd same (other f)⟩, by simp⟩

/-- An expression between parentheses is a head, and a name that stands there alone is called. -/
theorem BehindHead.of_group {whole single : Bool} {callee : Callee}
    {around : List (Bracket × Bool)} {e : Term} {rest : List Token}
    (name : whole = true ∧ callee = .name ↔ ∃ f, e = .ident f) :
    BehindHead single around e (Expectation.closed .group whole callee single around) rest := by
  by_cases called : whole = true ∧ callee = .name
  · obtain ⟨rfl, rfl⟩ := called
    exact ⟨.name, rfl, ⟨fun _ => name.mp ⟨rfl, rfl⟩, fun _ => rfl⟩, by simp⟩
  · have same : Expectation.closed .group whole callee single around =
        ⟨.behind .nothing, single, around⟩ := by
      unfold Expectation.closed
      split
      next => exact absurd ⟨rfl, rfl⟩ called
      next => rfl
    rw [same]
    exact .of_other fun f isName => called (name.mpr ⟨f, isName⟩)

section Levels

variable {d : Nat} {single : Bool} {around : List (Bracket × Bool)}

/-- A primary expression meets what is expected where an operand may stand. -/
theorem primary_meets (h : ExpressionMeets fun ts => expression d 1 ts) (ts : List Token)
    (plain : unaryOperator? ts = none) :
    Meets ⟨.operand, single, around⟩ ts (BehindHead single around)
      (primary (fun ts => expression d 1 ts) ts) := by
  rcases ts with _ | ⟨⟨kind, pos⟩, ts⟩
  · exact .unexpected _ (Expectation.refuses_of_place rfl (by simp))
  cases kind with
  | number | string | kwTrue | kwFalse | kwNull => exact .cons rfl (.done (.of_other (by simp)))
  | ident f => exact .cons rfl (.done ⟨.name, rfl, ⟨fun _ => ⟨f, rfl⟩, fun _ => rfl⟩, by simp⟩)
  | bang | minus => cases plain
  | leftParen =>
    refine .cons rfl ((h true ((.group, single) :: around) ts).andThen
      (fun e failed => by simp only [primary, failed]) ?_)
    rintro e _ rest read ⟨⟨callee, whole, rfl, name⟩, stops⟩
    simp only [primary, read]
    split
    next closed => cases closed
    next closed =>
      cases closed
      exact .cons rfl (.done (.of_group (name.trans (and_iff_right rfl))))
    next other closed =>
      cases closed
      exact .unexpected _ (refuses_unclosed rfl stops (closedBy_of_ne other))
  | leftBracket =>
    have inner : Meets ⟨.item .array, single, around⟩ ts
        (fun _ y _ => y = ⟨.behind .nothing, single, around⟩)
        (items (fun ts => expression d 1 ts) isRightBracket "',' or ']'" (ts.length + 1) ts) :=
      items_meets .array _ (item_meets h rfl (by simp) expression_shorter) expression_shorter
        (ts.length + 1) ts (Nat.lt_succ_self _)
    refine .cons rfl (inner.andThen (fun e failed => ?_) fun es y rest read same => ?_)
    · simp only [primary, failed]
    · simp only [primary, read]
      exact .done (same ▸ .of_other (by simp))
  | leftBrace =>
    have inner : Meets ⟨.item .object, single, around⟩ ts
        (fun _ y _ => y = ⟨.behind .nothing, single, around⟩)
        (items (objectField fun ts => expression d 1 ts) isRightBrace "',' or '\x7d'"
          (ts.length + 1) ts) :=
      items_meets .object _ (field_meets h) objectField_shorter (ts.length + 1) ts
        (Nat.lt_succ_self _)
    refine .cons rfl (inner.andThen (fun e failed => ?_) fun es y rest read same => ?_)
    · simp only [primary, failed]
    · simp only [primary, read]
      exact .done (same ▸ .of_other (by simp))
  | _ => exact .unexpected _ (Expectation.refuses_of_place rfl (by simp))

theorem arguments_meets (h : ExpressionMeets fun ts => expression d 1 ts) (ts : List Token) :
    Meets ⟨.item .arguments, single, around⟩ ts
      (fun _ y _ => y = ⟨.behind .nothing, single, around⟩)
      (arguments (fun ts => expression d 1 ts) ts) :=
  items_meets .arguments "',' or ')'" (item_meets h rfl (by simp) expression_shorter)
    expression_shorter (ts.length + 1) ts (Nat.lt_succ_self _)

end Levels

theorem binaryOperator?_cons {least : Nat} {ts mid : List Token} {op : BinaryOp}
    (h : binaryOperator? least ts = some (op, mid)) :
    ∃ t, ts = t :: mid ∧ BinaryOp.ofToken? t.kind = some op := by
  unfold binaryOperator? at h
  split at h
  next t ts =>
    split at h
    next op some =>
      split at h <;> cases h
      exact ⟨t, rfl, some⟩
    next => cases h
  next => cases h

theorem stops_of_binaryOperator? {least : Nat} {ts : List Token}
    (h : binaryOperator? least ts = none) (suffix : (peek ts).kind.isSuffix = false) :
    Stops least ts := by
  refine ⟨suffix, fun op operator => ?_⟩
  cases ts with
  | nil => cases operator
  | cons t ts =>
    have operator : BinaryOp.ofToken? t.kind = some op := operator
    simp only [binaryOperator?, operator] at h
    by_contra tight
    rw [if_neg tight] at h
    cases h

theorem unaryOperator?_cons {ts mid : List Token} {op : UnaryOp}
    (h : unaryOperator? ts = some (op, mid)) :
    ∃ t, ts = t :: mid ∧ ∀ single around,
      (⟨.operand, single, around⟩ : Expectation).step t.kind = some ⟨.operand, false, around⟩ := by
  unfold unaryOperator? at h
  split at h <;> cases h <;> exact ⟨_, rfl, fun _ _ => rfl⟩

/-- An expression with an operator is behind its operator, whatever it stands in. -/
theorem Behind.of_operator {single : Bool} {around : List (Bracket × Bool)} {e e' : Term}
    {y : Expectation} (h : Behind false around e y) (other : ∀ f, e' ≠ .ident f) :
    Behind single around e' y := by
  obtain ⟨callee, whole, rfl, name⟩ := h
  refine ⟨callee, whole, rfl, fun called => ?_, fun ⟨_, f, same⟩ => absurd same (other f)⟩
  exact absurd (name.mp called).1 (by simp)

/-- The rules for expressions with some levels of nesting meet what is expected. -/
structure Guided (d : Nat) : Prop where
  expression : ∀ least single around ts, Meets ⟨.operand, single, around⟩ ts
    (fun e y rest => Behind single around e y ∧ Stops least rest) (Expr.expression d least ts)
  chain : ∀ least left single around x ts, Behind single around left x →
    (peek ts).kind.isSuffix = false → Meets x ts
      (fun e y rest => Behind single around e y ∧ Stops least rest) (Expr.chain d least left ts)
  operand : ∀ single around ts, Meets ⟨.operand, single, around⟩ ts
    (fun e y rest => Behind single around e y ∧ (peek rest).kind.isSuffix = false)
    (Expr.operand d ts)
  suffixes : ∀ head single around x ts, BehindHead single around head x ts → Meets x ts
    (fun e y rest => BehindHead single around e y rest ∧ (peek rest).kind.isSuffix = false)
    (Expr.suffixes d head ts)

section Rules

/- A rule goes on with one level less, if there is one. -/
variable {d : Nat} (less : ∀ n, d = n + 1 → Guided n) {single : Bool}
  {around : List (Bracket × Bool)}
include less

theorem expression_meets (least : Nat) (ts : List Token) :
    Meets ⟨.operand, single, around⟩ ts
      (fun e y rest => Behind single around e y ∧ Stops least rest) (expression d least ts) := by
  rw [expression.eq_def]
  split
  next => exact .tooDeep
  next d =>
    refine ((less d rfl).operand single around ts).andThen (fun e failed => by rw [failed]) ?_
    rintro left y rest read ⟨behind, suffix⟩
    rw [read]
    exact (less d rfl).chain least left single around y rest behind suffix

theorem chain_meets (least : Nat) (left : Term) {x : Expectation} (ts : List Token)
    (behind : Behind single around left x) (suffix : (peek ts).kind.isSuffix = false) :
    Meets x ts (fun e y rest => Behind single around e y ∧ Stops least rest)
      (chain d least left ts) := by
  rw [chain.eq_def]
  split
  next none => exact .done ⟨behind, stops_of_binaryOperator? none suffix⟩
  next op mid operator =>
    obtain ⟨t, rfl, some⟩ := binaryOperator?_cons operator
    split
    next => exact .tooDeep
    next d =>
      obtain ⟨callee, whole, rfl, -⟩ := behind
      refine .cons (Expectation.step_operator some)
        (((less d rfl).expression (op.precedence + 1) false around mid).andThen
          (fun e failed => by rw [failed]) ?_)
      rintro right y rest read ⟨behind, stops⟩
      rw [read]
      exact (less d rfl).chain least _ single around y rest (behind.of_operator (by simp)) stops.1

theorem suffixes_meets (head : Term) {x : Expectation} (ts : List Token)
    (behind : BehindHead single around head x ts) :
    Meets x ts
      (fun e y rest => BehindHead single around e y rest ∧ (peek rest).kind.isSuffix = false)
      (suffixes d head ts) := by
  obtain ⟨callee, rfl, name, method⟩ := behind
  rw [suffixes.eq_def]
  split
  next ts =>
    split
    next => exact .tooDeep
    next d =>
      have inner : ExpressionMeets fun ts => expression d 1 ts :=
        (less d rfl).expression 1
      refine .cons rfl ?_
      split
      next f pos pos' ts =>
        refine .cons rfl (.cons rfl ((arguments_meets inner ts).andThen
          (fun e failed => by rw [failed]) ?_))
        rintro args _ rest read rfl
        rw [read]
        exact (less d rfl).suffixes _ single around _ rest (.of_other (by simp))
      next property pos ts noCall =>
        refine .cons rfl ((less d rfl).suffixes _ single around _ ts ⟨.method, rfl, ?_, fun _ => ?_⟩)
        · simp
        · intro call
          rcases ts with _ | ⟨⟨kind, pos'⟩, ts⟩
          · cases call
          · obtain rfl : kind = .leftParen := call
            exact noCall _ _ rfl
      next v pos ts =>
        exact .cons rfl ((less d rfl).suffixes _ single around _ ts (.of_other (by simp)))
      next noCall noName noNumber =>
        refine .unexpected _ (Expectation.refuses_of_place ?_ (by simp))
        rcases ts with _ | ⟨⟨kind, pos⟩, ts⟩
        · rfl
        cases kind with
        | ident property => exact absurd rfl (noName _ _ _)
        | number v => exact absurd rfl (noNumber _ _ _)
        | _ => rfl
  next ts =>
    split
    next => exact .tooDeep
    next d =>
      refine .cons rfl (((less d rfl).expression 1 false ((.index, single) :: around) ts).andThen
        (fun e failed => by rw [failed]) ?_)
      rintro i _ rest read ⟨⟨callee, whole, rfl, -⟩, stops⟩
      rw [read]
      split
      next closed => cases closed
      next closed =>
        cases closed
        exact .cons rfl ((less d rfl).suffixes _ single around _ _ (.of_other (by simp)))
      next other closed =>
        cases closed
        exact .unexpected _ (refuses_unclosed rfl stops (closedBy_of_ne other))
  next pos ts =>
    split
    next => exact .tooDeep
    next d =>
      have inner : ExpressionMeets fun ts => expression d 1 ts :=
        (less d rfl).expression 1
      split
      next f =>
        obtain rfl : callee = .name := name.mpr ⟨f, rfl⟩
        refine .cons rfl ((arguments_meets inner ts).andThen (fun e failed => by rw [failed]) ?_)
        rintro args _ rest read rfl
        rw [read]
        exact (less d rfl).suffixes _ single around _ rest (.of_other (by simp))
      next noName =>
        have none : (⟨.behind callee, single, around⟩ : Expectation).step .leftParen = none := by
          cases callee with
          | nothing => rfl
          | method => exact absurd rfl (method rfl)
          | name =>
            obtain ⟨f, same⟩ := name.mp rfl
            exact absurd same (noName f)
        have refused : (⟨.behind callee, single, around⟩ : Expectation).Refuses .leftParen :=
          ⟨none, by simp⟩
        have split : ⟨.leftParen, pos⟩ :: ts = [] ++ ⟨.leftParen, pos⟩ :: ts := rfl
        exact .stuck split rfl refused rfl
  next noDot noBracket noParen =>
    refine .done ⟨⟨callee, rfl, name, method⟩, ?_⟩
    rcases ts with _ | ⟨⟨kind, pos⟩, ts⟩
    · rfl
    cases kind with
    | dot => exact absurd rfl (noDot _ _)
    | leftBracket => exact absurd rfl (noBracket _ _)
    | leftParen => exact absurd rfl (noParen _ _)
    | _ => rfl

theorem operand_meets (ts : List Token) :
    Meets ⟨.operand, single, around⟩ ts
      (fun e y rest => Behind single around e y ∧ (peek rest).kind.isSuffix = false)
      (operand d ts) := by
  rw [operand.eq_def]
  split
  next op mid operator =>
    obtain ⟨t, rfl, leads⟩ := unaryOperator?_cons operator
    split
    next => exact .tooDeep
    next d =>
      refine .cons (leads single around) (((less d rfl).operand false around mid).andThen
        (fun e failed => by rw [failed]) ?_)
      rintro e y rest read ⟨behind, suffix⟩
      rw [read]
      exact .done ⟨behind.of_operator (by simp), suffix⟩
  next plain =>
    have inner : ExpressionMeets fun ts => expression d 1 ts :=
      fun single around ts => expression_meets less 1 ts
    refine (primary_meets inner ts plain).andThen (fun e failed => by rw [failed]) ?_
    intro e y rest read behind
    rw [read]
    exact (suffixes_meets less e rest behind).mono fun e y rest h => ⟨h.1.behind, h.2⟩

end Rules

/-- The rules for expressions meet what is expected, however many levels there are. -/
theorem guided (d : Nat) : Guided d := by
  induction d with
  | zero =>
    have less (n : Nat) (h : 0 = n + 1) : Guided n := by cases h
    exact ⟨fun least _ _ => expression_meets less least,
      fun least left _ _ _ => chain_meets less least left, fun _ _ => operand_meets less,
      fun head _ _ _ => suffixes_meets less head⟩
  | succ d ih =>
    have less (n : Nat) (h : d + 1 = n + 1) : Guided n := by
      cases h
      exact ih
    exact ⟨fun least _ _ => expression_meets less least,
      fun least left _ _ _ => chain_meets less least left, fun _ _ => operand_meets less,
      fun head _ _ _ => suffixes_meets less head⟩

end Automation.Expr
