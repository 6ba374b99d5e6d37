import Automation.Proofs.Expr.Layout
import Automation.Proofs.Expr.Phrase

/-!
# What the grammar builds

`Builds T rule depth e` says that a rule of the grammar answers `e` with that many levels of nesting
left, without the tokens: only what `T` says of their kinds is kept. Whatever the grammar reads is
built so (`parseExpression_builds`), so what is said of every expression that is read is said by
induction on how it is built.
-/

namespace Automation.Expr

/-! ## Tokens of a source -/

/-- A number that a numeral writes, a name that is an identifier, or any other token. -/
def TokenKind.Lexical : TokenKind → Prop
  | number x => ∃ n : Numeral, n.value = x
  | ident s => isIdentifier s = true
  | _ => True

/-- Tokens of kinds that a property holds of. -/
def OfKinds (T : TokenKind → Prop) (ts : List Token) : Prop :=
  ∀ t ∈ ts, T t.kind

theorem OfKinds.tail {T : TokenKind → Prop} {t : Token} {ts : List Token} (h : OfKinds T (t :: ts)) :
    OfKinds T ts :=
  fun u mem => h u (List.mem_cons_of_mem t mem)

/-- What is a text of a token is lexical. -/
theorem Denotes.lexical {cs : List Char} {kind : TokenKind} (h : Denotes cs kind) :
    kind.Lexical := by
  cases h with
  | number n => exact ⟨n, rfl⟩
  | string => trivial
  | ident x => exact x.2
  | mark known =>
    cases kind with
    | number | ident => cases known
    | _ => trivial

theorem Laid.lexical {pos : Nat} {cs : List Char} {ts : List Token} (h : Laid pos cs (.ok ts)) :
    OfKinds TokenKind.Lexical ts := by
  generalize read : Except.ok ts = answer at h
  induction h generalizing ts with
  | last =>
    cases read
    simp [OfKinds, TokenKind.Lexical]
  | stuck => cases read
  | @token _ _ _ _ _ answer _ _ longest _ ih =>
    cases answer with
    | error e => cases read
    | ok rest =>
      cases read
      exact List.forall_mem_cons.mpr ⟨longest.denotes.lexical, ih rfl⟩

/-- **The tokens of a source are lexical.** -/
theorem tokenize_lexical {source : String} {ts : List Token} (h : tokenize source = .ok ts) :
    OfKinds TokenKind.Lexical ts :=
  (laid_iff.mpr h).lexical

/-! ## Building -/

/-- Whether an expression is the variable of a name. -/
def Term.isVariable (x : String) : Term → Bool
  | .ident y => y == x
  | _ => false

theorem Term.isVariable_iff {x : String} {e : Term} : e.isVariable x = true ↔ e = .ident x := by
  cases e <;> simp [isVariable]

/-- The rules of the grammar for expressions; the loops go on with what is read already. -/
inductive Rule where
  | expression
  | chain (left : Term)
  | operand
  | suffixes (head : Term)
  | primary

/-- What a rule answers with a count of levels left, from tokens of kinds that a property holds
of. -/
inductive Builds (T : TokenKind → Prop) : Rule → Nat → Term → Prop where
  | expression {d left e} (read : Builds T .operand d left) (goesOn : Builds T (.chain left) d e) :
    Builds T .expression (d + 1) e
  | chainEnd (d left) : Builds T (.chain left) d left
  | chain {d left op right e} (read : Builds T .expression d right)
    (goesOn : Builds T (.chain (.binary left op right)) d e) : Builds T (.chain left) (d + 1) e
  | unary {d op e} (read : Builds T .operand d e) : Builds T .operand (d + 1) (.unary op e)
  | operand {d head e} (read : Builds T .primary d head) (goesOn : Builds T (.suffixes head) d e) :
    Builds T .operand d e
  | suffixesEnd (d e) : Builds T (.suffixes e) d e
  | method {d head f args e} (name : T (.ident f)) (read : ∀ a ∈ args, Builds T .expression d a)
    (goesOn : Builds T (.suffixes (.call f (head :: args))) d e) :
    Builds T (.suffixes head) (d + 1) e
  | member {d head x e} (name : T (.ident x)) (goesOn : Builds T (.suffixes (.member head x)) d e) :
    Builds T (.suffixes head) (d + 1) e
  | position {d head x e} (number : T (.number x))
    (goesOn : Builds T (.suffixes (.index head (.literal (Value.ofFloat x)))) d e) :
    Builds T (.suffixes head) (d + 1) e
  | index {d head i e} (read : Builds T .expression d i)
    (goesOn : Builds T (.suffixes (.index head i)) d e) : Builds T (.suffixes head) (d + 1) e
  | call {d f args e} (read : ∀ a ∈ args, Builds T .expression d a)
    (goesOn : Builds T (.suffixes (.call f args)) d e) : Builds T (.suffixes (.ident f)) (d + 1) e
  | number (d) {x} (number : T (.number x)) : Builds T .primary d (.literal (Value.ofFloat x))
  | string (d s) : Builds T .primary d (.literal (.string s))
  | bool (d b) : Builds T .primary d (.literal (.bool b))
  | null (d) : Builds T .primary d (.literal .null)
  | ident (d) {x} (name : T (.ident x)) : Builds T .primary d (.ident x)
  | between {d e} (read : Builds T .expression d e) : Builds T .primary d e
  | array {d items} (read : ∀ a ∈ items, Builds T .expression d a) :
    Builds T .primary d (.array items)
  /-- A field whose value is not the variable of its name has been read. -/
  | object {d fields} (read : ∀ f ∈ fields, f.2 ≠ .ident f.1 → Builds T .expression d f.2) :
    Builds T .primary d (.object fields)

section Grammar

variable {T : TokenKind → Prop}

/-- A rule that answers what a property holds of when it reads tokens of certain kinds, and leaves
tokens of these kinds. -/
def Keeps {α : Type} (T : TokenKind → Prop) (read : List Token → Parse α) (P : α → Prop) : Prop :=
  ∀ {ts a rest}, read ts = .ok (a, rest) → OfKinds T ts → P a ∧ OfKinds T rest

theorem OfKinds.drop {ts : List Token} (h : OfKinds T ts) : OfKinds T ts.tail := by
  cases ts with
  | nil => exact h
  | cons _ _ => exact h.tail

/-- Every item of a list is one that the rule for items answers. -/
theorem items_keeps {α : Type} {item : List Token → Parse α} {P : α → Prop} (h : Keeps T item P)
    (close : TokenKind → Bool) (what : String) (fuel : Nat) :
    Keeps T (items item close what fuel) fun as => ∀ a ∈ as, P a := by
  induction fuel with
  | zero =>
    intro ts as rest read
    cases read
  | succ fuel ih =>
    intro ts as rest read kinds
    rw [items] at read
    split at read
    next =>
      cases read
      exact ⟨by simp, kinds.drop⟩
    next =>
      split at read
      next => cases read
      next a mid first =>
        obtain ⟨holds, left⟩ := h first kinds
        split at read
        next =>
          split at read
          next => cases read
          next others =>
            cases read
            obtain ⟨all, left⟩ := ih others left.tail
            exact ⟨by simpa using ⟨holds, all⟩, left⟩
        next =>
          split at read
          next =>
            cases read
            exact ⟨by simpa using holds, left.drop⟩
          next => cases read

/-- A field either has a value that was read, or stands for the variable of its name. -/
theorem objectField_keeps {expression : List Token → Parse Term} {P : Term → Prop}
    (h : Keeps T expression P) :
    Keeps T (objectField expression) fun f => f.2 ≠ .ident f.1 → P f.2 := by
  intro ts f rest read kinds
  unfold objectField at read
  dsimp only at read
  split at read
  next => cases read
  next k pos mid key =>
    have left : OfKinds T (⟨.colon, pos⟩ :: mid) := by
      split at key <;> cases key <;> exact kinds.tail
    split at read
    next => cases read
    next value =>
      cases read
      obtain ⟨holds, left⟩ := h value left.tail
      exact ⟨fun _ => holds, left⟩
  next k mid _ key =>
    have left : OfKinds T mid := by
      split at key <;> cases key <;> exact kinds.tail
    cases read
    exact ⟨fun other => absurd rfl other, left⟩

theorem primary_keeps {expression : List Token → Parse Term} {d : Nat}
    (h : Keeps T expression (Builds T .expression d)) :
    Keeps T (primary expression) (Builds T .primary d) := by
  intro ts e rest read kinds
  unfold primary at read
  split at read
  next =>
    cases read
    exact ⟨.number d (kinds _ List.mem_cons_self), kinds.tail⟩
  next =>
    cases read
    exact ⟨.string d _, kinds.tail⟩
  next =>
    cases read
    exact ⟨.bool d true, kinds.tail⟩
  next =>
    cases read
    exact ⟨.bool d false, kinds.tail⟩
  next =>
    cases read
    exact ⟨.null d, kinds.tail⟩
  next =>
    cases read
    exact ⟨.ident d (kinds _ List.mem_cons_self), kinds.tail⟩
  next =>
    split at read
    next => cases read
    next inner =>
      cases read
      obtain ⟨built, left⟩ := h inner kinds.tail
      exact ⟨.between built, left.tail⟩
    next => cases read
  next =>
    split at read
    next => cases read
    next inner =>
      cases read
      obtain ⟨built, left⟩ := items_keeps h _ _ _ inner kinds.tail
      exact ⟨.array built, left⟩
  next =>
    split at read
    next => cases read
    next inner =>
      cases read
      obtain ⟨built, left⟩ := items_keeps (objectField_keeps h) _ _ _ inner kinds.tail
      exact ⟨.object built, left⟩
  next => cases read

theorem unaryOperator?_eq_some {ts mid : List Token} {op : UnaryOp}
    (h : unaryOperator? ts = some (op, mid)) : mid = ts.tail := by
  unfold unaryOperator? at h
  split at h <;> cases h <;> rfl

theorem binaryOperator?_eq_some {least : Nat} {ts mid : List Token} {op : BinaryOp}
    (h : binaryOperator? least ts = some (op, mid)) : mid = ts.tail := by
  unfold binaryOperator? at h
  split at h
  next =>
    split at h
    next =>
      split at h <;> cases h
      rfl
    next => cases h
  next => cases h

/-- What the rules for expressions read with a count of levels left is built with it. -/
structure Sound (T : TokenKind → Prop) (d : Nat) : Prop where
  expression : ∀ least, Keeps T (Expr.expression d least) (Builds T .expression d)
  chain : ∀ least left, Keeps T (Expr.chain d least left) (Builds T (.chain left) d)
  operand : Keeps T (Expr.operand d) (Builds T .operand d)
  suffixes : ∀ head, Keeps T (Expr.suffixes d head) (Builds T (.suffixes head) d)

section Levels

/- A rule goes on with one level less, if there is one. -/
variable {d : Nat} (less : ∀ n, d = n + 1 → Sound T n)
include less

theorem expression_keeps (least : Nat) : Keeps T (expression d least) (Builds T .expression d) := by
  intro ts e rest read kinds
  rw [expression.eq_def] at read
  split at read
  next => cases read
  next d =>
    split at read
    next => cases read
    next first =>
      obtain ⟨built, left⟩ := (less d rfl).operand first kinds
      obtain ⟨whole, left⟩ := (less d rfl).chain _ _ read left
      exact ⟨.expression built whole, left⟩

theorem chain_keeps (least : Nat) (left : Term) :
    Keeps T (chain d least left) (Builds T (.chain left) d) := by
  intro ts e rest read kinds
  rw [chain.eq_def] at read
  split at read
  next =>
    cases read
    exact ⟨.chainEnd d left, kinds⟩
  next op mid operator =>
    rw [binaryOperator?_eq_some operator] at read
    split at read
    next => cases read
    next d =>
      split at read
      next => cases read
      next right =>
        obtain ⟨built, left⟩ := (less d rfl).expression _ right kinds.drop
        obtain ⟨whole, left⟩ := (less d rfl).chain _ _ read left
        exact ⟨.chain built whole, left⟩

theorem suffixes_keeps (head : Term) : Keeps T (suffixes d head) (Builds T (.suffixes head) d) := by
  intro ts e rest read kinds
  rw [suffixes.eq_def] at read
  split at read
  next =>
    split at read
    next => cases read
    next d =>
      split at read
      next =>
        split at read
        next => cases read
        next args =>
          obtain ⟨built, left⟩ :=
            items_keeps ((less d rfl).expression 1) _ _ _ args kinds.tail.tail.tail
          obtain ⟨whole, left⟩ := (less d rfl).suffixes _ read left
          exact ⟨.method (kinds.tail _ List.mem_cons_self) built whole, left⟩
      next =>
        obtain ⟨whole, left⟩ := (less d rfl).suffixes _ read kinds.tail.tail
        exact ⟨.member (kinds.tail _ List.mem_cons_self) whole, left⟩
      next =>
        obtain ⟨whole, left⟩ := (less d rfl).suffixes _ read kinds.tail.tail
        exact ⟨.position (kinds.tail _ List.mem_cons_self) whole, left⟩
      next => cases read
  next =>
    split at read
    next => cases read
    next d =>
      split at read
      next => cases read
      next index =>
        obtain ⟨built, left⟩ := (less d rfl).expression 1 index kinds.tail
        obtain ⟨whole, left⟩ := (less d rfl).suffixes _ read left.tail
        exact ⟨.index built whole, left⟩
      next => cases read
  next =>
    split at read
    next => cases read
    next d =>
      split at read
      next =>
        split at read
        next => cases read
        next args =>
          obtain ⟨built, left⟩ :=
            items_keeps ((less d rfl).expression 1) _ _ _ args kinds.tail
          obtain ⟨whole, left⟩ := (less d rfl).suffixes _ read left
          exact ⟨.call built whole, left⟩
      next => cases read
  next =>
    cases read
    exact ⟨.suffixesEnd d head, kinds⟩

theorem operand_keeps : Keeps T (operand d) (Builds T .operand d) := by
  intro ts e rest read kinds
  rw [operand.eq_def] at read
  split at read
  next op mid operator =>
    rw [unaryOperator?_eq_some operator] at read
    split at read
    next => cases read
    next d =>
      split at read
      next => cases read
      next inner =>
        cases read
        obtain ⟨built, left⟩ := (less d rfl).operand inner kinds.drop
        exact ⟨.unary built, left⟩
  next =>
    split at read
    next => cases read
    next first =>
      obtain ⟨built, left⟩ := primary_keeps (expression_keeps less 1) first kinds
      obtain ⟨whole, left⟩ := suffixes_keeps less _ read left
      exact ⟨.operand built whole, left⟩

end Levels

/-- **Whatever the rules for expressions read is built by them.** -/
theorem sound (d : Nat) : Sound T d := by
  induction d with
  | zero =>
    have less (n : Nat) (h : 0 = n + 1) : Sound T n := by cases h
    exact ⟨expression_keeps less, chain_keeps less, operand_keeps less, suffixes_keeps less⟩
  | succ d ih =>
    have less (n : Nat) (h : d + 1 = n + 1) : Sound T n := by
      cases h
      exact ih
    exact ⟨expression_keeps less, chain_keeps less, operand_keeps less, suffixes_keeps less⟩

end Grammar

/-- **Every expression that a source is read as is built** from its tokens, with the levels of the
limit. -/
theorem parseExpression_builds {T : TokenKind → Prop} {source : String} {limit : Nat} {e : Term}
    (kinds : ∀ ts, tokenize source = .ok ts → OfKinds T ts)
    (h : parseExpression source limit = .ok e) : Builds T .expression limit e := by
  unfold parseExpression at h
  split at h
  next => cases h
  next ts tokens =>
    unfold parseTokens at h
    split at h
    next => cases h
    next read =>
      split at h
      next =>
        cases h
        exact ((sound limit).expression 1 read (kinds ts tokens)).1
      next => cases h

/-- What a rule answers from lexical tokens can be said, if what it goes on with can. -/
theorem Builds.sayable_of {rule : Rule} {d : Nat} {e : Term}
    (h : Builds TokenKind.Lexical rule d e) :
    match rule with
    | .chain left => left.Sayable → e.Sayable
    | .suffixes head => head.Sayable → e.Sayable
    | _ => e.Sayable := by
  induction h with
  | expression _ _ ihl ih => exact ih ihl
  | chainEnd => exact id
  | chain _ _ ihr ih => exact fun left => ih (.binary left ihr)
  | unary _ ih => exact .unary ih
  | operand _ _ ihh ih => exact ih ihh
  | suffixesEnd => exact id
  | method name _ _ iha ih =>
    refine fun head => ih (.call name fun a mem => ?_)
    rcases List.mem_cons.mp mem with rfl | mem
    · exact head
    · exact iha a mem
  | member name _ ih => exact fun head => ih (.member head name)
  | position number _ ih =>
    obtain ⟨n, rfl⟩ := number
    exact fun head => ih (.index head (.number n))
  | index _ _ ihi ih => exact fun head => ih (.index head ihi)
  | call _ _ iha ih =>
    intro head
    cases head with
    | ident name => exact ih (.call name iha)
  | number d number =>
    obtain ⟨n, rfl⟩ := number
    exact .number n
  | string d s => exact .string s
  | bool d b => exact .bool b
  | null d => exact .null
  | ident d name => exact .ident name
  | between _ ih => exact ih
  | array _ ih => exact .array ih
  | object _ ih => exact .object ih

/-- **Whatever a source is read as can be said.** -/
theorem sayable_of_parseExpression {source : String} {limit : Nat} {e : Term}
    (h : parseExpression source limit = .ok e) : e.Sayable :=
  (parseExpression_builds (fun _ => tokenize_lexical) h).sayable_of

end Automation.Expr
