import Mathlib.Data.List.Forall2
import Mathlib.Order.Filter.AtTopBot.Basic
import Automation.Proofs.Expr.Phrase

/-!
# Reading a written expression

A phrase is read as the expression that it writes (`parseExpression_write`).

With enough levels of nesting left, the grammar reads words as an expression and goes on with what
follows them. What goes on depends on how tightly the words hold together: after words that hold
together most tightly, suffixes may follow; after an operator and its operand, none may; and after
an operator between operands, no operator that binds more tightly.
-/

namespace Automation.Expr

open Filter

/-- A statement holds from some number on if it does for the successors. -/
theorem eventually_succ {P : Nat → Prop} (h : ∀ᶠ n in atTop, P (n + 1)) : ∀ᶠ n in atTop, P n := by
  obtain ⟨start, h⟩ := eventually_atTop.mp h
  refine eventually_atTop.mpr ⟨start + 1, fun n le => ?_⟩
  obtain ⟨m, rfl⟩ : ∃ m, n = m + 1 := ⟨n - 1, by omega⟩
  exact h m (by omega)

/-! ## Steps of the grammar -/

section Steps

variable {depth least : Nat} {e left right : Term} {ts rest mid : List Token}

theorem expression_of {r : Parse Term} (read : operand depth ts = .ok (left, mid))
    (goesOn : chain depth least left mid = r) : expression (depth + 1) least ts = r := by
  rw [expression.eq_def]
  simp only [read]
  exact goesOn

theorem binaryOperator?_eq_none
    (h : ∀ op ∈ BinaryOp.ofToken? (peek ts).kind, op.precedence < least) :
    binaryOperator? least ts = none := by
  unfold binaryOperator?
  split
  next t ts =>
    split
    next op some => rw [if_pos (h op some)]
    next => rfl
  next => rfl

theorem chain_stop (h : ∀ op ∈ BinaryOp.ofToken? (peek ts).kind, op.precedence < least) :
    chain depth least e ts = .ok (e, ts) := by
  rw [chain.eq_def, binaryOperator?_eq_none h]

theorem chain_of {r : Parse Term} {op : BinaryOp} {pos : Nat} (le : least ≤ op.precedence)
    (read : expression depth (op.precedence + 1) ts = .ok (right, mid))
    (goesOn : chain depth least (.binary left op right) mid = r) :
    chain (depth + 1) least left (⟨op.token, pos⟩ :: ts) = r := by
  have operator : binaryOperator? least (⟨op.token, pos⟩ :: ts) = some (op, ts) := by
    simp [binaryOperator?, Nat.not_lt.mpr le]
  rw [chain.eq_def, operator]
  simp only [read]
  exact goesOn

theorem operand_of_unary {op : UnaryOp} {pos : Nat} (read : operand depth ts = .ok (e, mid)) :
    operand (depth + 1) (⟨op.token, pos⟩ :: ts) = .ok (.unary op e, mid) := by
  have operator : unaryOperator? (⟨op.token, pos⟩ :: ts) = some (op, ts) := by
    cases op <;> rfl
  rw [operand.eq_def, operator]
  simp only [read]

theorem operand_of_primary {r : Parse Term} (plain : unaryOperator? ts = none)
    (read : primary (fun ts => expression depth 1 ts) ts = .ok (e, mid))
    (goesOn : suffixes depth e mid = r) : operand depth ts = r := by
  rw [operand.eq_def, plain]
  simp only [read]
  exact goesOn

/-- Whether a token begins a suffix. -/
def TokenKind.isSuffix : TokenKind → Bool
  | dot => true
  | leftBracket => true
  | leftParen => true
  | _ => false

theorem suffixes_stop (h : (peek ts).kind.isSuffix = false) : suffixes depth e ts = .ok (e, ts) := by
  rw [suffixes.eq_def]
  split
  next => cases h
  next => cases h
  next => cases h
  next => rfl

theorem suffixes_member {r : Parse Term} {x : String} {pos pos' : Nat}
    (plain : (peek ts).kind ≠ .leftParen) (goesOn : suffixes depth (.member e x) ts = r) :
    suffixes (depth + 1) e (⟨.dot, pos⟩ :: ⟨.ident x, pos'⟩ :: ts) = r := by
  rw [suffixes.eq_def]
  dsimp only
  split
  next h =>
    obtain ⟨rfl⟩ := (List.cons.inj h).2
    exact absurd rfl plain
  next h =>
    cases h
    exact goesOn
  next h => cases h
  next h _ => exact absurd rfl (h _ _ _)

theorem suffixes_index {r : Parse Term} {i : Term} {pos pos' : Nat}
    (read : expression depth 1 ts = .ok (i, ⟨.rightBracket, pos'⟩ :: mid))
    (goesOn : suffixes depth (.index e i) mid = r) :
    suffixes (depth + 1) e (⟨.leftBracket, pos⟩ :: ts) = r := by
  rw [suffixes.eq_def]
  simp only [read]
  exact goesOn

theorem suffixes_call {r : Parse Term} {f : String} {args : List Term} {pos : Nat}
    (read : arguments (fun ts => expression depth 1 ts) ts = .ok (args, mid))
    (goesOn : suffixes depth (.call f args) mid = r) :
    suffixes (depth + 1) (.ident f) (⟨.leftParen, pos⟩ :: ts) = r := by
  rw [suffixes.eq_def]
  simp only [read]
  exact goesOn

end Steps

/-! ## What words are read as -/

/-- Words that are read as an expression that any suffixes are taken of, except that no call
follows. -/
def ReadsHead (ws : List Word) (e : Term) : Prop :=
  ∀ {ts rest}, Spelled ws ts rest → (peek rest).kind ≠ .leftParen → ∀ {r},
    (∀ᶠ d in atTop, suffixes d e rest = r) → ∀ᶠ d in atTop, operand d ts = r

/-- Words that are read as an operand where no suffix follows. -/
def ReadsOperand (ws : List Word) (e : Term) : Prop :=
  ∀ {ts rest}, Spelled ws ts rest → (peek rest).kind.isSuffix = false →
    ∀ᶠ d in atTop, operand d ts = .ok (e, rest)

/-- Tokens that do not go on with words of a strength: no suffix, and no operator that binds more
tightly. -/
def Follows (strength : Nat) (ts : List Token) : Prop :=
  (peek ts).kind.isSuffix = false ∧
    ∀ op ∈ BinaryOp.ofToken? (peek ts).kind, op.precedence ≤ strength

/-- Words that are read as a left operand, up to what does not go on with them. -/
def ReadsLeft (strength : Nat) (ws : List Word) (e : Term) : Prop :=
  ∀ {ts rest least}, least ≤ strength → Spelled ws ts rest → Follows strength rest → ∀ {r},
    (∀ᶠ d in atTop, chain d least e rest = r) → ∀ᶠ d in atTop, expression d least ts = r

/-- Words that are read as an expression that holds together with a strength. -/
structure Reads (strength : Nat) (ws : List Word) (e : Term) : Prop where
  positive : 1 ≤ strength
  opens : Opens ws
  head : 8 ≤ strength → ReadsHead ws e
  operand : 7 ≤ strength → ReadsOperand ws e
  left : ReadsLeft strength ws e

theorem ReadsOperand.left {ws : List Word} {e : Term} (h : ReadsOperand ws e) (strength : Nat) :
    ReadsLeft strength ws e := by
  intro ts rest least _ spelled follows r goesOn
  refine eventually_succ ?_
  filter_upwards [h spelled follows.1, goesOn] with d read goesOn
  exact expression_of read goesOn

theorem ReadsHead.operand {ws : List Word} {e : Term} (h : ReadsHead ws e) : ReadsOperand ws e := by
  intro ts rest spelled stop
  have plain : (peek rest).kind ≠ .leftParen := by
    intro paren
    rw [paren] at stop
    cases stop
  exact h spelled plain (.of_forall fun d => suffixes_stop stop)

/-- Words with any suffixes after them hold together most tightly. -/
theorem Reads.of_head {ws : List Word} {e : Term} (opens : Opens ws) (h : ReadsHead ws e) :
    Reads 8 ws e where
  positive := by omega
  opens := opens
  head := fun _ => h
  operand := fun _ => h.operand
  left := ReadsOperand.left h.operand 8

theorem Reads.of_operand {ws : List Word} {e : Term} (opens : Opens ws) (h : ReadsOperand ws e) :
    Reads 7 ws e where
  positive := by omega
  opens := opens
  head := fun le => by omega
  operand := fun _ => h
  left := h.left 7

/-- Tokens that end an expression: no suffix and no operator. -/
def Ends (ts : List Token) : Prop :=
  (peek ts).kind.isSuffix = false ∧ BinaryOp.ofToken? (peek ts).kind = none

theorem Ends.follows {ts : List Token} (h : Ends ts) (strength : Nat) : Follows strength ts :=
  ⟨h.1, by simp [h.2]⟩

theorem Ends.chain {ts : List Token} (h : Ends ts) (depth least : Nat) (e : Term) :
    chain depth least e ts = .ok (e, ts) :=
  chain_stop (by simp [h.2])

section Parts

variable {strength : Nat} {ws : List Word} {e : Term} {ts rest : List Token}

/-- An expression that ends is read as a whole. -/
theorem Reads.whole (h : Reads strength ws e) (spelled : Spelled ws ts rest) (ends : Ends rest) :
    ∀ᶠ d in atTop, expression d 1 ts = .ok (e, rest) :=
  h.left h.positive spelled (ends.follows strength) (.of_forall fun d => ends.chain d 1 e)

/-- Between parentheses any expression holds together most tightly. -/
theorem Reads.between (h : Reads strength ws e) : Reads 8 (parenthesized ws) e := by
  refine .of_head (.cons rfl _) fun {ts rest} spelled _ {r} goesOn => ?_
  simp only [parenthesized, Spelled.cons_iff, Spelled.append_iff, Spelled.nil_iff] at spelled
  obtain ⟨pos, tail, rfl, _, inner, pos', _, rfl, rfl⟩ := spelled
  filter_upwards [h.whole inner ⟨rfl, rfl⟩, goesOn] with d read goesOn
  refine operand_of_primary rfl ?_ goesOn
  show primary _ (⟨.leftParen, pos⟩ :: tail) = _
  rw [primary.eq_def]
  simp only [read]
  rfl

/-- A part holds together as tightly as its place asks for. -/
theorem Reads.part (h : Reads strength ws e) (least : Nat) (le : least ≤ 8) :
    ∃ s, least ≤ s ∧ Reads s (wrapped least strength ws) e := by
  unfold wrapped
  split
  next => exact ⟨8, le, h.between⟩
  next => exact ⟨strength, by omega, h⟩

/-! ## Operators and suffixes -/

/-- An operator before an operand takes the whole operand. -/
theorem Reads.unary (op : UnaryOp) (h : Reads strength ws e) :
    Reads 7 (op.word :: wrapped 7 strength ws) (.unary op e) := by
  obtain ⟨s, le, h⟩ := h.part 7 (by omega)
  refine .of_operand (.cons (by cases op <;> rfl) _) fun {ts rest} spelled stop => ?_
  rw [Spelled.cons_iff] at spelled
  obtain ⟨pos, tail, rfl, spelled⟩ := spelled
  refine eventually_succ ?_
  filter_upwards [h.operand le spelled stop] with d read
  exact operand_of_unary read

/-- An operator between operands takes what binds at least as tightly before it, and what binds
more tightly behind it. -/
theorem Reads.binary (op : BinaryOp) (h : Reads strength ws e) {strength' : Nat} {ws' : List Word}
    {e' : Term} (h' : Reads strength' ws' e') :
    Reads op.precedence
      (wrapped op.precedence strength ws ++ op.word :: wrapped (op.precedence + 1) strength' ws')
      (.binary e op e') := by
  have bounds := op.precedence_bounds
  obtain ⟨s, le, l⟩ := h.part op.precedence (by omega)
  obtain ⟨s', le', r⟩ := h'.part (op.precedence + 1) (by omega)
  refine ⟨bounds.1, l.opens.append _, fun _ => by omega, fun _ => by omega, ?_⟩
  intro ts rest least atLeast spelled follows answer goesOn
  simp only [Spelled.append_iff, Spelled.cons_iff] at spelled
  obtain ⟨_, front, pos, tail, rfl, back⟩ := spelled
  have between : Follows s (⟨op.word.kind, pos⟩ :: tail) := by
    refine ⟨by cases op <;> rfl, fun op' known => ?_⟩
    have same : BinaryOp.ofToken? op.token = some op' := known
    rw [BinaryOp.ofToken?_token] at same
    cases same
    exact le
  -- The right operand ends where an operator follows that binds no more tightly than this one.
  have right : ∀ᶠ d in atTop, Expr.expression d (op.precedence + 1) tail = .ok (e', rest) := by
    refine r.left le' back ⟨follows.1, fun op' known => ?_⟩ (.of_forall fun d => ?_)
    · have := follows.2 op' known
      omega
    · exact chain_stop fun op' known => Nat.lt_succ_of_le (follows.2 op' known)
  refine l.left (by omega) front between (eventually_succ ?_)
  filter_upwards [right, goesOn] with d right goesOn
  exact chain_of atLeast right goesOn

/-- A member is taken of what holds together most tightly. -/
theorem Reads.member (x : Identifier) (h : Reads strength ws e) :
    Reads 8 (wrapped 8 strength ws ++ [.dot, .ident x]) (.member e x.1) := by
  obtain ⟨s, le, h⟩ := h.part 8 (by omega)
  refine .of_head (h.opens.append _) fun {ts rest} spelled plain {r} goesOn => ?_
  simp only [Spelled.append_iff, Spelled.cons_iff, Spelled.nil_iff] at spelled
  obtain ⟨_, front, pos, _, rfl, pos', tail, rfl, rfl⟩ := spelled
  refine h.head le front (by simp [peek, Word.dot, Word.kind]) (eventually_succ ?_)
  filter_upwards [goesOn] with d goesOn
  exact suffixes_member plain goesOn

/-- An index is taken of what holds together most tightly. -/
theorem Reads.index (h : Reads strength ws e) {strength' : Nat} {ws' : List Word} {e' : Term}
    (h' : Reads strength' ws' e') :
    Reads 8 (wrapped 8 strength ws ++ .leftBracket :: (ws' ++ [.rightBracket])) (.index e e') := by
  obtain ⟨s, le, h⟩ := h.part 8 (by omega)
  refine .of_head (h.opens.append _) fun {ts rest} spelled plain {r} goesOn => ?_
  simp only [Spelled.append_iff, Spelled.cons_iff, Spelled.nil_iff] at spelled
  obtain ⟨_, front, pos, tail, rfl, _, key, pos', _, rfl, rfl⟩ := spelled
  refine h.head le front (by simp [peek, Word.leftBracket, Word.kind]) (eventually_succ ?_)
  filter_upwards [h'.whole key ⟨rfl, rfl⟩, goesOn] with d read goesOn
  exact suffixes_index read goesOn

end Parts

/-! ## Lists -/

/-- A token that closes a list, and no other does. -/
structure Closes (close : TokenKind → Bool) (w : Word) : Prop where
  iff : ∀ kind, close kind = true ↔ kind = w.kind
  shut : w.kind.opens = false
  other : w.kind ≠ .comma
  ends : w.kind.isSuffix = false ∧ BinaryOp.ofToken? w.kind = none

theorem closes_rightParen : Closes isRightParen .rightParen where
  iff := fun kind => by cases kind <;> simp [isRightParen, Word.rightParen, Word.kind]
  shut := rfl
  other := by simp [Word.rightParen, Word.kind]
  ends := ⟨rfl, rfl⟩

theorem closes_rightBracket : Closes isRightBracket .rightBracket where
  iff := fun kind => by cases kind <;> simp [isRightBracket, Word.rightBracket, Word.kind]
  shut := rfl
  other := by simp [Word.rightBracket, Word.kind]
  ends := ⟨rfl, rfl⟩

theorem closes_rightBrace : Closes isRightBrace .rightBrace where
  iff := fun kind => by cases kind <;> simp [isRightBrace, Word.rightBrace, Word.kind]
  shut := rfl
  other := by simp [Word.rightBrace, Word.kind]
  ends := ⟨rfl, rfl⟩

/-- Words that are read as an item of a list, where a comma or the end of the list follows. -/
structure ReadsItem {α : Type} (item : Nat → List Token → Parse α) (closing : Word)
    (ws : List Word) (a : α) : Prop where
  opens : Opens ws
  reads : ∀ {ts rest}, Spelled ws ts rest →
    (peek rest).kind = .comma ∨ (peek rest).kind = closing.kind →
    ∀ᶠ d in atTop, item d ts = .ok (a, rest)

section Lists

variable {α : Type} {item : List Token → Parse α} {close : TokenKind → Bool} {closing : Word}
  {what : String}

theorem items_nil {fuel pos : Nat} {rest : List Token} (c : Closes close closing) :
    items item close what (fuel + 1) (⟨closing.kind, pos⟩ :: rest) = .ok ([], rest) := by
  have stop : close (peek (⟨closing.kind, pos⟩ :: rest)).kind = true := (c.iff _).mpr rfl
  rw [items, if_pos stop]
  rfl

theorem items_last {fuel pos : Nat} {ts rest : List Token} {a : α} (c : Closes close closing)
    (opens : (peek ts).kind.opens = true)
    (read : item ts = .ok (a, ⟨closing.kind, pos⟩ :: rest)) :
    items item close what (fuel + 1) ts = .ok ([a], rest) := by
  have start : ¬close (peek ts).kind = true := by
    rw [c.iff]
    intro same
    rw [same, c.shut] at opens
    cases opens
  rw [items, if_neg start]
  simp only [read]
  split
  next h => exact absurd (Token.mk.inj (List.cons.inj h).1).1 c.other
  next => exact if_pos ((c.iff _).mpr rfl)

theorem items_cons {fuel pos : Nat} {ts mid rest : List Token} {a : α} {as : List α}
    (c : Closes close closing) (opens : (peek ts).kind.opens = true)
    (read : item ts = .ok (a, ⟨.comma, pos⟩ :: mid))
    (others : items item close what fuel mid = .ok (as, rest)) :
    items item close what (fuel + 1) ts = .ok (a :: as, rest) := by
  have start : ¬close (peek ts).kind = true := by
    rw [c.iff]
    intro same
    rw [same, c.shut] at opens
    cases opens
  rw [items, if_neg start]
  simp only [read, others]

end Lists

/-- **A list is read item by item**, with a comma between items and none behind the last. -/
theorem items_read {α : Type} {item : Nat → List Token → Parse α} {close : TokenKind → Bool}
    {closing : Word} (what : String) (c : Closes close closing) {wss : List (List Word)}
    {as : List α} (h : List.Forall₂ (ReadsItem item closing) wss as) :
    ∀ {ts rest : List Token} {fuel : Nat},
      Spelled ([Word.comma].intercalate wss ++ [closing]) ts rest → ts.length < fuel →
      ∀ᶠ d in atTop, items (item d) close what fuel ts = .ok (as, rest) := by
  induction h with
  | nil =>
    intro ts rest fuel spelled le
    obtain ⟨fuel, rfl⟩ : ∃ n, fuel = n + 1 := ⟨fuel - 1, by omega⟩
    simp only [List.intercalate_nil, List.nil_append, Spelled.cons_iff, Spelled.nil_iff] at spelled
    obtain ⟨pos, _, rfl, rfl⟩ := spelled
    exact .of_forall fun d => items_nil c
  | @cons ws a wss as first others ih =>
    intro ts rest fuel spelled le
    obtain ⟨fuel, rfl⟩ : ∃ n, fuel = n + 1 := ⟨fuel - 1, by omega⟩
    cases others with
    | nil =>
      simp only [List.intercalate_singleton, Spelled.append_iff, Spelled.cons_iff,
        Spelled.nil_iff] at spelled
      obtain ⟨_, front, pos, _, rfl, rfl⟩ := spelled
      filter_upwards [first.reads front (.inr rfl)] with d read
      exact items_last c (front.opens first.opens) read
    | @cons ws' a' wss as second others =>
      rw [List.intercalate_cons_cons, List.append_assoc, List.append_assoc, List.singleton_append,
        Spelled.append_iff] at spelled
      obtain ⟨mid, front, back⟩ := spelled
      rw [Spelled.cons_iff] at back
      obtain ⟨pos, tail, rfl, back⟩ := back
      have shorter : tail.length < fuel := by
        have := front.length_eq
        simp only [List.length_cons] at this
        omega
      filter_upwards [first.reads front (.inl rfl), ih back shorter] with d read others
      exact items_cons c (front.opens first.opens) read others

/-- An expression is an item of a list. -/
theorem Reads.item {strength : Nat} {ws : List Word} {e : Term} (h : Reads strength ws e)
    {close : TokenKind → Bool} {closing : Word} (c : Closes close closing) :
    ReadsItem (fun d ts => Expr.expression d 1 ts) closing ws e where
  opens := h.opens
  reads := by
    intro ts rest spelled stop
    refine h.whole spelled ?_
    rcases stop with comma | closed
    · exact ⟨by rw [comma]; rfl, by rw [comma]; rfl⟩
    · exact ⟨closed ▸ c.ends.1, closed ▸ c.ends.2⟩

/-! ## Phrases -/

/-- Words that one rule of the grammar takes, which is not one for an operator before an operand,
hold together most tightly. -/
theorem Reads.of_primary {w : Word} {ws : List Word} {e : Term} (opens : w.kind.opens = true)
    (plain : ∀ pos ts, unaryOperator? (⟨w.kind, pos⟩ :: ts) = none)
    (read : ∀ {pos ts rest}, Spelled ws ts rest → ∀ᶠ d in atTop,
      primary (fun ts => Expr.expression d 1 ts) (⟨w.kind, pos⟩ :: ts) = .ok (e, rest)) :
    Reads 8 (w :: ws) e := by
  refine .of_head (.cons opens _) fun {ts rest} spelled _ {r} goesOn => ?_
  rw [Spelled.cons_iff] at spelled
  obtain ⟨pos, tail, rfl, spelled⟩ := spelled
  filter_upwards [read spelled, goesOn] with d read goesOn
  exact operand_of_primary (plain _ _) read goesOn

/-- A single token is taken as it is. -/
theorem Reads.of_token {w : Word} {e : Term} (opens : w.kind.opens = true)
    (plain : ∀ pos ts, unaryOperator? (⟨w.kind, pos⟩ :: ts) = none)
    (read : ∀ expression pos ts, primary expression (⟨w.kind, pos⟩ :: ts) = .ok (e, ts)) :
    Reads 8 [w] e := by
  refine .of_primary opens plain fun spelled => ?_
  obtain rfl := Spelled.nil_iff.mp spelled
  exact .of_forall fun d => read _ _ _

/-- A call is read with its arguments. -/
theorem Reads.call (f : Identifier) {wss : List (List Word)} {es : List Term}
    (h : List.Forall₂ (ReadsItem (fun d ts => Expr.expression d 1 ts) .rightParen) wss es) :
    Reads 8 (.ident f :: .leftParen :: ([.comma].intercalate wss ++ [.rightParen]))
      (.call f.1 es) := by
  refine .of_head (.cons rfl _) fun {ts rest} spelled _ {r} goesOn => ?_
  simp only [Spelled.cons_iff] at spelled
  obtain ⟨pos, _, rfl, pos', tail, rfl, spelled⟩ := spelled
  have args := items_read "',' or ')'" closes_rightParen h spelled (Nat.lt_succ_self _)
  have call : ∀ᶠ d in atTop, suffixes d (.ident f.1) (⟨.leftParen, pos'⟩ :: tail) = r := by
    refine eventually_succ ?_
    filter_upwards [args, goesOn] with d read goesOn
    exact suffixes_call read goesOn
  filter_upwards [call] with d call
  exact operand_of_primary rfl rfl call

/-- An array is read with its items. -/
theorem Reads.array {wss : List (List Word)} {es : List Term}
    (h : List.Forall₂ (ReadsItem (fun d ts => Expr.expression d 1 ts) .rightBracket) wss es) :
    Reads 8 (.leftBracket :: ([.comma].intercalate wss ++ [.rightBracket])) (.array es) := by
  refine .of_primary rfl (fun _ _ => rfl) fun {pos ts rest} spelled => ?_
  filter_upwards [items_read "',' or ']'" closes_rightBracket h spelled (Nat.lt_succ_self _)]
    with d read
  show primary _ (⟨.leftBracket, pos⟩ :: ts) = _
  rw [primary.eq_def]
  simp only [read]

/-- An object is read with its fields. -/
theorem Reads.object {wss : List (List Word)} {fs : List (String × Term)}
    (h : List.Forall₂ (ReadsItem (fun d => objectField fun ts => Expr.expression d 1 ts)
      .rightBrace) wss fs) :
    Reads 8 (.leftBrace :: ([.comma].intercalate wss ++ [.rightBrace])) (.object fs) := by
  refine .of_primary rfl (fun _ _ => rfl) fun {pos ts rest} spelled => ?_
  filter_upwards [items_read "',' or '\x7d'" closes_rightBrace h spelled (Nat.lt_succ_self _)]
    with d read
  show primary _ (⟨.leftBrace, pos⟩ :: ts) = _
  rw [primary.eq_def]
  simp only [read]

/-- A key that no value follows is also the name of the variable. -/
theorem objectField_short (expression : List Token → Parse Term) {k : String} {pos : Nat}
    {rest : List Token} (h : (peek rest).kind ≠ .colon) :
    objectField expression (⟨.string k, pos⟩ :: rest) = .ok ((k, .ident k), rest) := by
  unfold objectField
  dsimp only
  split
  next none => cases none
  next colon =>
    cases colon
    exact absurd rfl h
  next same =>
    cases same
    rfl

mutual

/-- **A phrase is read as its expression**, and holds together as tightly as it says. -/
theorem Phrase.reads : ∀ p : Phrase, Reads p.strength p.words p.expr
  | .number _ => .of_token rfl (fun _ _ => rfl) fun _ _ _ => rfl
  | .string _ => .of_token rfl (fun _ _ => rfl) fun _ _ _ => rfl
  | .bool true => .of_token rfl (fun _ _ => rfl) fun _ _ _ => rfl
  | .bool false => .of_token rfl (fun _ _ => rfl) fun _ _ _ => rfl
  | .null => .of_token rfl (fun _ _ => rfl) fun _ _ _ => rfl
  | .ident _ => .of_token rfl (fun _ _ => rfl) fun _ _ _ => rfl
  | .unary op p => p.reads.unary op
  | .binary l op r => l.reads.binary op r.reads
  | .member p x => p.reads.member x
  | .index p k => p.reads.index k.reads
  | .call f args => .call f (Phrase.reads_items closes_rightParen args)
  | .array items => .array (Phrase.reads_items closes_rightBracket items)
  | .object fields => .object (PhraseField.reads_fields fields)

/-- Phrases are items of a list. -/
theorem Phrase.reads_items {close : TokenKind → Bool} {closing : Word} (c : Closes close closing) :
    ∀ ps : List Phrase, List.Forall₂ (ReadsItem (fun d ts => Expr.expression d 1 ts) closing)
      (Phrase.wordLists ps) (Phrase.exprs ps)
  | [] => .nil
  | p :: rest => .cons (p.reads.item c) (Phrase.reads_items c rest)

/-- A field is read with its key. -/
theorem PhraseField.reads : ∀ f : PhraseField,
    ReadsItem (fun d => objectField fun ts => Expr.expression d 1 ts) .rightBrace f.words f.expr
  | .pair k p => by
    refine ⟨.cons rfl _, fun {ts rest} spelled stop => ?_⟩
    simp only [PhraseField.words, Spelled.cons_iff] at spelled
    obtain ⟨pos, _, rfl, pos', tail, rfl, value⟩ := spelled
    filter_upwards [(p.reads.item closes_rightBrace).reads value stop] with d read
    show objectField _ (⟨.string k.text, pos⟩ :: ⟨.colon, pos'⟩ :: tail) = _
    simp only [objectField, read]
    rfl
  | .short k => by
    refine ⟨.cons rfl _, fun {ts rest} spelled stop => ?_⟩
    simp only [PhraseField.words, Spelled.cons_iff, Spelled.nil_iff] at spelled
    obtain ⟨pos, _, rfl, rfl⟩ := spelled
    refine .of_forall fun d => objectField_short _ fun colon => ?_
    rcases stop with same | same <;> cases colon.symm.trans same

/-- Fields are items of a list. -/
theorem PhraseField.reads_fields : ∀ fs : List PhraseField,
    List.Forall₂ (ReadsItem (fun d => objectField fun ts => Expr.expression d 1 ts) .rightBrace)
      (PhraseField.wordLists fs) (PhraseField.exprs fs)
  | [] => .nil
  | f :: rest => .cons f.reads (PhraseField.reads_fields rest)

end

/-- Words of a phrase and the end are read as its expression. -/
theorem parseTokens_phrase (p : Phrase) {ts : List Token} {stop : Nat}
    (spelled : Spelled p.words ts [⟨.eof, stop⟩]) :
    ∀ᶠ d in atTop, parseTokens d ts = .ok p.expr := by
  filter_upwards [p.reads.whole spelled ⟨rfl, rfl⟩] with d read
  unfold parseTokens
  simp only [read]
  rfl

/-- The text of a phrase is read as its expression, with enough levels of nesting. -/
theorem parseExpression_phrase (p : Phrase) :
    ∀ᶠ limit in atTop, parseExpression p.write limit = .ok p.expr := by
  obtain ⟨ts, stop, tokens, spelled⟩ := tokenize_joined p.words
  filter_upwards [parseTokens_phrase p spelled] with limit read
  unfold parseExpression Phrase.write
  simp only [tokens, read]
  rfl

/-- **Every expression can be written and read back.** What can be said is written by a phrase, and
the text of a phrase is read as exactly its expression under every limit that is large enough. -/
theorem parseExpression_write :
    (∀ e : Term, e.Sayable → ∃ p : Phrase, p.expr = e) ∧
      ∀ p : Phrase, ∃ enough, ∀ limit ≥ enough, parseExpression p.write limit = .ok p.expr :=
  ⟨fun _ h => h.exists_phrase, fun p => eventually_atTop.mp (parseExpression_phrase p)⟩

end Automation.Expr
