import Automation.Proofs.Expr.Reading
import Automation.Proofs.Expr.Script

/-!
# How deeply expressions are nested

The levels of nesting that an operand takes are given back before its suffixes and the operators
behind it are counted, although these nest it deeper; and a short field takes no level for its value.
So the limit bounds the nesting in which these do not count (`Term.level`). All in all an expression
can be nested more deeply than the limit says: at most `limit * (limit - 1) + 2` deep, and exactly so
deep at worst (`depth_bounded`).
-/

namespace Automation.Expr

/-! ## The bound -/

/-- The greatest depth of an expression that is read with a count of levels. -/
def deepest : Nat → Nat
  | 0 => 1
  | d + 1 => deepest d + 1 + d + (d - 1)

theorem deepest_succ (d : Nat) : deepest (d + 1) = (d + 1) * d + 2 := by
  induction d with
  | zero => rfl
  | succ d ih =>
    rw [deepest, ih]
    simp only [Nat.add_mul, Nat.mul_add]
    omega

theorem deepest_le (d : Nat) : deepest d ≤ d * (d - 1) + 2 := by
  cases d with
  | zero => decide
  | succ d => exact Nat.le_of_eq (deepest_succ d)

theorem one_le_deepest (d : Nat) : 1 ≤ deepest d := by
  cases d with
  | zero => decide
  | succ d =>
    rw [deepest]
    omega

theorem deepest_mono {m n : Nat} (h : m ≤ n) : deepest m ≤ deepest n := by
  induction h with
  | refl => exact Nat.le_refl _
  | step _ ih =>
    rw [deepest]
    omega

theorem deepest_pred_le (d : Nat) : deepest (d - 1) ≤ deepest d :=
  deepest_mono (Nat.sub_le d 1)

/-- The greatest depth of what a rule answers. Suffixes and operators nest what they go on with a
level deeper each. -/
def Rule.deepest : Rule → Nat → Nat
  | expression, d => Expr.deepest d
  | chain left, d => max left.depth (Expr.deepest (d - 1)) + (d - 1)
  | operand, d => Expr.deepest d + 1 + d
  | suffixes head, d => max head.depth (Expr.deepest (d - 1)) + d
  | primary, d => Expr.deepest d + 1

/-- The greatest of some sizes is bounded as they are. -/
theorem greatest_le {α : Type} {greatest : List α → Nat} {size : α → Nat} {n : Nat}
    (nil : greatest [] = 0) (cons : ∀ a as, greatest (a :: as) = max (size a) (greatest as))
    {as : List α} (h : ∀ a ∈ as, size a ≤ n) : greatest as ≤ n := by
  induction as with
  | nil =>
    rw [nil]
    exact Nat.zero_le n
  | cons a as ih =>
    rw [cons]
    exact Nat.max_le.mpr ⟨h a List.mem_cons_self, ih fun a' mem => h a' (List.mem_cons_of_mem _ mem)⟩

theorem depthOfItems_le {items : List Term} {n : Nat} (h : ∀ e ∈ items, e.depth ≤ n) :
    Term.depthOfItems items ≤ n :=
  greatest_le rfl (fun _ _ => rfl) h

theorem depthOfFields_le {fields : List (String × Term)} {n : Nat}
    (h : ∀ f ∈ fields, f.2.depth ≤ n) : Term.depthOfFields fields ≤ n :=
  greatest_le rfl (fun _ _ => rfl) h

/-- An expression takes a level. -/
theorem Builds.expression_pos {T : TokenKind → Prop} {d : Nat} {e : Term}
    (h : Builds T .expression d e) : 1 ≤ d := by
  cases h
  omega

/-- **What a rule answers is nested no more deeply than its bound.** -/
theorem Builds.depth_le {T : TokenKind → Prop} {rule : Rule} {d : Nat} {e : Term}
    (h : Builds T rule d e) : e.depth ≤ rule.deepest d := by
  induction h with
  | @expression d left e _ _ ihl ih =>
    have := deepest_pred_le d
    simp only [Rule.deepest, Expr.deepest] at *
    omega
  | chainEnd =>
    simp only [Rule.deepest]
    omega
  | @chain d left op right e read _ ihr ih =>
    have := deepest_pred_le d
    have := read.expression_pos
    simp only [Rule.deepest, Term.depth, Nat.add_sub_cancel] at *
    omega
  | @unary d op e _ ih =>
    have : Expr.deepest d ≤ Expr.deepest (d + 1) := deepest_mono (Nat.le_succ d)
    simp only [Rule.deepest, Term.depth] at *
    omega
  | @operand d head e _ _ ihh ih =>
    have := deepest_pred_le d
    simp only [Rule.deepest] at *
    omega
  | suffixesEnd =>
    simp only [Rule.deepest]
    omega
  | @method d head f args e _ _ _ iha ih =>
    have := deepest_pred_le d
    have := depthOfItems_le iha
    simp only [Rule.deepest, Term.depth, Term.depthOfItems, Nat.add_sub_cancel] at *
    omega
  | @member d head x e _ _ ih =>
    have := deepest_pred_le d
    simp only [Rule.deepest, Term.depth, Nat.add_sub_cancel] at *
    omega
  | @position d head x e _ _ ih =>
    have := deepest_pred_le d
    have := one_le_deepest d
    simp only [Rule.deepest, Term.depth, Nat.add_sub_cancel] at *
    omega
  | @index d head i e _ _ ihi ih =>
    have := deepest_pred_le d
    simp only [Rule.deepest, Term.depth, Nat.add_sub_cancel] at *
    omega
  | @call d f args e _ _ iha ih =>
    have := deepest_pred_le d
    have := depthOfItems_le iha
    simp only [Rule.deepest, Term.depth, Nat.add_sub_cancel] at *
    omega
  | number => exact Nat.succ_le_succ (Nat.zero_le _)
  | string => exact Nat.succ_le_succ (Nat.zero_le _)
  | bool => exact Nat.succ_le_succ (Nat.zero_le _)
  | null => exact Nat.succ_le_succ (Nat.zero_le _)
  | ident => exact Nat.succ_le_succ (Nat.zero_le _)
  | between _ ih => exact Nat.le_succ_of_le ih
  | array _ ih => exact Nat.succ_le_succ (depthOfItems_le ih)
  | @object d fields _ ih =>
    refine Nat.succ_le_succ (depthOfFields_le fun f mem => ?_)
    by_cases short : f.2 = .ident f.1
    · rw [short]
      exact one_le_deepest d
    · exact ih f mem short

/-! ## What the limit counts -/

mutual

/-- The nesting depth of an expression if what suffixes and operators follow counts as no deeper than
the whole, and the value of a short field as nothing. -/
def Term.level : Term → Nat
  | .literal _ => 1
  | .ident _ => 1
  | .unary _ e => e.level + 1
  | .binary l _ r => max l.level (r.level + 1)
  | .member e _ => e.level
  | .index e i => max e.level (i.level + 1)
  | .call _ [] => 1
  | .call _ (first :: rest) => max first.level (Term.levelOfItems rest + 1)
  | .array items => Term.levelOfItems items + 1
  | .object fields => Term.levelOfFields fields + 1

/-- The level of the deepest item. -/
def Term.levelOfItems : List Term → Nat
  | [] => 0
  | e :: rest => max e.level (Term.levelOfItems rest)

/-- The level of the deepest field. -/
def Term.levelOfFields : List (String × Term) → Nat
  | [] => 0
  | (k, e) :: rest => max (if e.isVariable k then 0 else e.level) (Term.levelOfFields rest)

end

/-- The greatest level of what a rule answers. -/
def Rule.level : Rule → Nat → Nat
  | expression, d => d
  | chain left, d => max left.level d
  | operand, d => d + 1
  | suffixes head, d => max head.level (d + 1)
  | primary, d => d + 1

theorem levelOfItems_le {items : List Term} {n : Nat} (h : ∀ e ∈ items, e.level ≤ n) :
    Term.levelOfItems items ≤ n :=
  greatest_le rfl (fun _ _ => rfl) h

theorem levelOfFields_le {fields : List (String × Term)} {n : Nat}
    (h : ∀ f ∈ fields, f.2 ≠ .ident f.1 → f.2.level ≤ n) : Term.levelOfFields fields ≤ n := by
  refine greatest_le rfl (fun _ _ => rfl) fun f mem => ?_
  split
  next => exact Nat.zero_le n
  next long => exact h f mem fun same => long (Term.isVariable_iff.mpr same)

/-- **What a rule answers stays within the levels.** -/
theorem Builds.level_le {T : TokenKind → Prop} {rule : Rule} {d : Nat} {e : Term}
    (h : Builds T rule d e) : e.level ≤ rule.level d := by
  induction h with
  | expression => simp only [Rule.level] at *; omega
  | chainEnd => simp only [Rule.level]; omega
  | chain => simp only [Rule.level, Term.level] at *; omega
  | unary => simp only [Rule.level, Term.level] at *; omega
  | operand => simp only [Rule.level] at *; omega
  | suffixesEnd => simp only [Rule.level]; omega
  | @method d head f args e _ _ _ iha ih =>
    have := levelOfItems_le iha
    simp only [Rule.level, Term.level] at *
    omega
  | member => simp only [Rule.level, Term.level] at *; omega
  | position => simp only [Rule.level, Term.level] at *; omega
  | index => simp only [Rule.level, Term.level] at *; omega
  | @call d f args e _ _ iha ih =>
    have within : (Term.call f args).level ≤ d + 1 := by
      cases args with
      | nil => exact Nat.succ_le_succ (Nat.zero_le d)
      | cons first rest =>
        have := iha first List.mem_cons_self
        have := levelOfItems_le fun e mem => iha e (List.mem_cons_of_mem _ mem)
        simp only [Rule.level, Term.level] at *
        omega
    simp only [Rule.level] at *
    omega
  | number => exact Nat.succ_le_succ (Nat.zero_le _)
  | string => exact Nat.succ_le_succ (Nat.zero_le _)
  | bool => exact Nat.succ_le_succ (Nat.zero_le _)
  | null => exact Nat.succ_le_succ (Nat.zero_le _)
  | ident => exact Nat.succ_le_succ (Nat.zero_le _)
  | between _ ih => exact Nat.le_succ_of_le ih
  | array _ ih => exact Nat.succ_le_succ (levelOfItems_le ih)
  | object _ ih => exact Nat.succ_le_succ (levelOfFields_le ih)

/-! ## Sources -/

/-- What a source is read as under a limit. -/
theorem bounded_of_parseExpression {source : String} {limit : Nat} {e : Term}
    (h : parseExpression source limit = .ok e) :
    e.level ≤ limit ∧ e.depth ≤ limit * (limit - 1) + 2 :=
  have built := parseExpression_builds (fun _ => tokenize_lexical) h
  ⟨built.level_le, built.depth_le.trans (deepest_le limit)⟩

theorem PathSegment.Made.imp {P Q : Term → Prop} (h : ∀ e, P e → Q e) {s : PathSegment}
    (made : s.Made P) : s.Made Q := by
  cases made with
  | field name => exact .field name
  | index key => exact .index (h _ key)

/-- What is made of expressions with a property is made of expressions with a weaker one. -/
theorem Stmt.Made.imp {P Q : Term → Prop} (h : ∀ e, P e → Q e) {s : Stmt} (made : s.Made P) :
    s.Made Q := by
  induction made with
  | declare name value => exact .declare name (h _ value)
  | assign name steps value => exact .assign name (fun s mem => (steps s mem).imp h) (h _ value)
  | branch some conditions _ _ bodies otherwise =>
    exact .branch some (fun b mem => h _ (conditions b mem)) bodies otherwise
  | loop name items _ ih => exact .loop name (h _ items) ih
  | ret value => exact .ret fun e same => h e (value e same)
  | throw value => exact .throw (h _ value)
  | expr value => exact .expr (h _ value)

/-- Parts are nested no more deeply than the whole. -/
theorem inherited_bounds {m n : Nat} (somewhat : 1 ≤ m) (pos : 1 ≤ n) :
    Inherited fun e => e.Sayable ∧ e.level ≤ m ∧ e.depth ≤ n where
  sayable := And.left
  null := ⟨.null, somewhat, pos⟩
  member := by
    intro e x h
    obtain ⟨sayable, level, depth⟩ := h
    cases sayable with
    | member sayable _ => exact ⟨sayable, level, Nat.le_of_succ_le depth⟩
  index := by
    intro e i h
    obtain ⟨sayable, level, depth⟩ := h
    rw [Term.level] at level
    rw [Term.depth] at depth
    cases sayable with
    | index sayable key => exact ⟨⟨sayable, by omega, by omega⟩, key, by omega, by omega⟩

/-- Every expression of a script that is read under a limit. The value of a declaration that has none
is there even without any level. -/
theorem made_of_parseProgram {source : String} {limit : Nat} {program : Program}
    (h : parseProgram source limit = .ok program) :
    ∀ s ∈ program, s.Made fun e =>
      e.level ≤ max 1 limit ∧ e.depth ≤ limit * (limit - 1) + 2 := by
  have inherited : Inherited fun e =>
      e.Sayable ∧ e.level ≤ max 1 limit ∧ e.depth ≤ limit * (limit - 1) + 2 :=
    inherited_bounds (Nat.le_max_left _ _) (by omega)
  have built (n : Nat) (le : n ≤ limit) (e : Term) (h : Builds TokenKind.Lexical .expression n e) :
      e.Sayable ∧ e.level ≤ max 1 limit ∧ e.depth ≤ limit * (limit - 1) + 2 :=
    ⟨h.sayable_of, h.level_le.trans (le.trans (Nat.le_max_right _ _)),
      h.depth_le.trans ((deepest_mono le).trans (deepest_le limit))⟩
  exact fun s mem => (parseProgram_made inherited built h s mem).imp fun e => And.right

/-! ## The deepest expressions

With one level there is an object with a short field. With one more, the last one is an item of an
array, which as many members are taken of as there were levels, and one operator less follows. -/

/-- A key that is short for the field of the variable of its name. -/
def shortKey : Quoted := ⟨.single, "a"⟩

/-- A name. -/
def someName : Identifier := ⟨"x", by decide⟩

/-- The words of some members. -/
def memberWords : Nat → List Word
  | 0 => []
  | n + 1 => .dot :: .ident someName :: memberWords n

/-- The words of some sums. -/
def sumWords : Nat → List Word
  | 0 => []
  | n + 1 => BinaryOp.add.word :: .null :: sumWords n

/-- An expression with some members taken of it. -/
def members (e : Term) : Nat → Term
  | 0 => e
  | n + 1 => members (.member e someName.1) n

/-- An expression that something is added to some times. -/
def sums (e : Term) : Nat → Term
  | 0 => e
  | n + 1 => sums (.binary e .add (.literal .null)) n

/-- The words of the deepest expression with one level more than the number. -/
def deepWords : Nat → List Word
  | 0 => [.leftBrace, .string shortKey, .rightBrace]
  | n + 1 => .leftBracket :: (deepWords n ++ .rightBracket :: (memberWords (n + 1) ++ sumWords n))

/-- The deepest expression with one level more than the number. -/
def deepExpr : Nat → Term
  | 0 => .object [(shortKey.text, .ident shortKey.text)]
  | n + 1 => sums (members (.array [deepExpr n]) (n + 1)) n

theorem members_depth (e : Term) (n : Nat) : (members e n).depth = e.depth + n := by
  induction n generalizing e with
  | zero => rfl
  | succ n ih =>
    rw [members, ih, Term.depth]
    omega

theorem sums_depth {e : Term} (h : 1 ≤ e.depth) (n : Nat) : (sums e n).depth = e.depth + n := by
  induction n generalizing e with
  | zero => rfl
  | succ n ih =>
    have more : (Term.binary e .add (.literal .null)).depth = e.depth + 1 := by
      simp only [Term.depth]
      omega
    rw [sums, ih (by omega), more]
    omega

theorem deepExpr_depth (n : Nat) : (deepExpr n).depth = deepest (n + 1) := by
  induction n with
  | zero => rfl
  | succ n ih =>
    have array : (Term.array [deepExpr n]).depth = deepest (n + 1) + 1 := by
      simp [Term.depth, Term.depthOfItems, ih]
    have more : deepest (n + 2) = deepest (n + 1) + 1 + (n + 1) + n := rfl
    rw [deepExpr, sums_depth (by rw [members_depth]; omega), members_depth, array, more]

/-- Members take a level each. -/
theorem suffixes_members (n : Nat) {e : Term} {ts rest : List Token}
    (spelled : Spelled (memberWords n) ts rest) (stop : (peek rest).kind.isSuffix = false) :
    suffixes n e ts = .ok (members e n, rest) := by
  induction n generalizing e ts with
  | zero =>
    rw [memberWords, Spelled.nil_iff] at spelled
    subst spelled
    exact suffixes_stop stop
  | succ n ih =>
    simp only [memberWords, Spelled.cons_iff] at spelled
    obtain ⟨pos, _, rfl, pos', tail, rfl, spelled⟩ := spelled
    refine suffixes_member (fun paren => ?_) (ih spelled)
    cases n with
    | zero =>
      rw [memberWords, Spelled.nil_iff] at spelled
      rw [← spelled, paren] at stop
      cases stop
    | succ n =>
      rw [memberWords, Spelled.cons_iff] at spelled
      obtain ⟨_, _, rfl, _⟩ := spelled
      cases paren

theorem follows_sums {n : Nat} {ts rest : List Token} (spelled : Spelled (sumWords n) ts rest)
    (ends : Ends rest) : Follows 5 ts := by
  cases n with
  | zero =>
    rw [sumWords, Spelled.nil_iff] at spelled
    exact spelled ▸ ends.follows 5
  | succ n =>
    rw [sumWords, Spelled.cons_iff] at spelled
    obtain ⟨_, _, rfl, _⟩ := spelled
    exact ⟨rfl, fun op known => by cases known; decide⟩

/-- Sums take a level each, and one more is left for the operand of the last one. -/
theorem chain_sums (n : Nat) {left : Term} {ts rest : List Token}
    (spelled : Spelled (sumWords n) ts rest) (ends : Ends rest) :
    chain (n + 1) 1 left ts = .ok (sums left n, rest) := by
  induction n generalizing left ts with
  | zero =>
    rw [sumWords, Spelled.nil_iff] at spelled
    subst spelled
    exact ends.chain _ _ _
  | succ n ih =>
    simp only [sumWords, Spelled.cons_iff] at spelled
    obtain ⟨pos, _, rfl, pos', tail, rfl, spelled⟩ := spelled
    have follows := follows_sums spelled ends
    have addend : expression (n + 1) 6 (⟨.kwNull, pos'⟩ :: tail) = .ok (.literal .null, tail) := by
      refine expression_of (operand_of_primary rfl rfl (suffixes_stop follows.1)) ?_
      exact chain_stop fun op known => Nat.lt_succ_of_le (follows.2 op known)
    have binds : 1 ≤ BinaryOp.add.precedence := by decide
    exact chain_of binds addend (ih spelled)

/-- **The levels are enough for the deepest expressions.** -/
theorem expression_deep (n : Nat) {ts rest : List Token} (spelled : Spelled (deepWords n) ts rest)
    (ends : Ends rest) : expression (n + 1) 1 ts = .ok (deepExpr n, rest) := by
  induction n generalizing ts rest with
  | zero =>
    simp only [deepWords, Spelled.cons_iff, Spelled.nil_iff] at spelled
    obtain ⟨pos, _, rfl, pos', _, rfl, pos'', tail, rfl, rfl⟩ := spelled
    refine expression_of (operand_of_primary rfl ?_ (suffixes_stop ends.1)) (ends.chain _ _ _)
    rfl
  | succ n ih =>
    simp only [deepWords, Spelled.cons_iff, Spelled.append_iff] at spelled
    obtain ⟨pos, tail, rfl, _, inner, pos', mid, rfl, plus, dots, pluses⟩ := spelled
    refine expression_of (operand_of_primary rfl ?_ (suffixes_members (n + 1) dots ?_))
      (chain_sums n pluses ends)
    · have opens : (peek tail).kind.opens = true :=
        inner.opens (by cases n <;> exact .cons rfl _)
      have item : items (fun ts => expression (n + 1) 1 ts) isRightBracket "',' or ']'"
          (tail.length + 1) tail = .ok ([deepExpr n], mid) :=
        items_last closes_rightBracket opens (ih inner closes_rightBracket.ends)
      show primary _ (⟨.leftBracket, pos⟩ :: tail) = _
      rw [primary.eq_def]
      simp only [item]
    · exact (follows_sums pluses ends).1

theorem parseExpression_deep (n : Nat) :
    parseExpression (joined (deepWords n)) (n + 1) = .ok (deepExpr n) := by
  obtain ⟨ts, stop, tokens, spelled⟩ := tokenize_joined (deepWords n)
  unfold parseExpression parseTokens
  simp only [tokens, expression_deep n spelled ⟨rfl, rfl⟩]
  rfl

/-- **The depth of what is read is bounded by the square of the limit**, in an expression and in a
script, and under every limit some expression is nested so deeply. Within the limit is what is nested
without what suffixes and operators follow, and without short fields. -/
theorem depth_bounded (source : String) (limit : Nat) :
    (∀ e, parseExpression source limit = .ok e →
      e.level ≤ limit ∧ e.depth ≤ limit * (limit - 1) + 2) ∧
    (∀ program, parseProgram source limit = .ok program → ∀ s ∈ program, s.Made fun e =>
      e.level ≤ max 1 limit ∧ e.depth ≤ limit * (limit - 1) + 2) ∧
    (1 ≤ limit → ∃ deep e,
      parseExpression deep limit = .ok e ∧ e.depth = limit * (limit - 1) + 2) := by
  refine ⟨fun _ => bounded_of_parseExpression, fun _ => made_of_parseProgram, fun pos => ?_⟩
  obtain ⟨n, rfl⟩ : ∃ n, limit = n + 1 := ⟨limit - 1, by omega⟩
  refine ⟨_, _, parseExpression_deep n, ?_⟩
  rw [deepExpr_depth, deepest_succ, Nat.add_sub_cancel]

/-- The limit itself is no bound: with two levels, `[ \x7b 'a' \x7d ] . x` is read, which is nested
four deep. -/
theorem not_depth_le_limit :
    ¬∀ source limit e, parseExpression source limit = .ok e → e.depth ≤ limit := by
  intro bounded
  have source : joined (deepWords 1) = "[ \x7b 'a' \x7d ] . x" := by decide
  have deep : parseExpression "[ \x7b 'a' \x7d ] . x" 2 = .ok (deepExpr 1) :=
    source ▸ parseExpression_deep 1
  have le := bounded _ _ _ deep
  rw [deepExpr_depth] at le
  exact absurd le (by decide)

end Automation.Expr
