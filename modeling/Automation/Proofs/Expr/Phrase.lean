import Automation.Expr.Parser
import Automation.Proofs.Expr.Scan

/-!
# Written expressions

A `Phrase` is an expression with what its text needs besides: the digits of its numbers and the
quotes of its texts. Its words are those of the expression, with parentheses only where the
precedence of an operator, its association to the left, or the head of a suffix asks for them.
-/

namespace Automation.Expr

/-! ## Words of the grammar

The tokens without content, each in its first spelling. -/

namespace Word

def leftParen : Word := .mark .leftParen "(" (by decide)
def rightParen : Word := .mark .rightParen ")" (by decide)
def leftBracket : Word := .mark .leftBracket "[" (by decide)
def rightBracket : Word := .mark .rightBracket "]" (by decide)
def leftBrace : Word := .mark .leftBrace "\x7b" (by decide)
def rightBrace : Word := .mark .rightBrace "\x7d" (by decide)
def comma : Word := .mark .comma "," (by decide)
def dot : Word := .mark .dot "." (by decide)
def colon : Word := .mark .colon ":" (by decide)
def true : Word := .mark .kwTrue "true" (by decide)
def false : Word := .mark .kwFalse "false" (by decide)
def null : Word := .mark .kwNull "null" (by decide)

/-- The word of a truth value. -/
def bool (b : Bool) : Word := if b then true else false

end Word

/-- The token of the operator. -/
def UnaryOp.token : UnaryOp → TokenKind
  | not => .bang
  | negate => .minus

/-- The word of the operator. -/
def UnaryOp.word (op : UnaryOp) : Word :=
  .mark op.token op.name (by cases op <;> decide)

/-- The token of the operator. -/
def BinaryOp.token : BinaryOp → TokenKind
  | add => .plus
  | subtract => .minus
  | multiply => .star
  | divide => .slash
  | modulo => .percent
  | equal => .eqEq
  | notEqual => .notEq
  | less => .less
  | greater => .greater
  | lessEqual => .lessEq
  | greaterEqual => .greaterEq
  | regexMatch => .regexMatch
  | and => .and
  | or => .or

/-- The word of the operator. -/
def BinaryOp.word (op : BinaryOp) : Word :=
  .mark op.token op.name (by cases op <;> decide)

@[simp] theorem BinaryOp.ofToken?_token (op : BinaryOp) : ofToken? op.token = some op := by
  cases op <;> rfl

theorem BinaryOp.precedence_bounds (op : BinaryOp) : 1 ≤ op.precedence ∧ op.precedence ≤ 6 := by
  cases op <;> decide

/-! ## Phrases -/

mutual

/-- An expression as it is written. -/
inductive Phrase where
  | number (n : Numeral)
  | string (s : Quoted)
  | bool (b : Bool)
  | null
  | ident (x : Identifier)
  | unary (op : UnaryOp) (operand : Phrase)
  | binary (left : Phrase) (op : BinaryOp) (right : Phrase)
  | member (object : Phrase) (property : Identifier)
  | index (object key : Phrase)
  | call (name : Identifier) (args : List Phrase)
  | array (items : List Phrase)
  | object (fields : List PhraseField)

/-- A field of an object as it is written: a key with a value, or a key that is also the name of
the variable with the value. -/
inductive PhraseField where
  | pair (key : Quoted) (value : Phrase)
  | short (key : Quoted)

end

mutual

/-- The expression that is written. -/
def Phrase.expr : Phrase → Term
  | .number n => .literal (Value.ofFloat n.value)
  | .string s => .literal (.string s.text)
  | .bool b => .literal (.bool b)
  | .null => .literal .null
  | .ident x => .ident x.1
  | .unary op p => .unary op p.expr
  | .binary l op r => .binary l.expr op r.expr
  | .member p x => .member p.expr x.1
  | .index p k => .index p.expr k.expr
  | .call f args => .call f.1 (Phrase.exprs args)
  | .array items => .array (Phrase.exprs items)
  | .object fields => .object (PhraseField.exprs fields)

/-- The expressions that are written. -/
def Phrase.exprs : List Phrase → List Term
  | [] => []
  | p :: rest => p.expr :: Phrase.exprs rest

/-- The field that is written. -/
def PhraseField.expr : PhraseField → String × Term
  | .pair k p => (k.text, p.expr)
  | .short k => (k.text, .ident k.text)

/-- The fields that are written. -/
def PhraseField.exprs : List PhraseField → List (String × Term)
  | [] => []
  | f :: rest => f.expr :: PhraseField.exprs rest

end

/-- How tightly the phrase holds together: an operator between operands by its precedence, an
operator before one more tightly than those, and all else most tightly. -/
def Phrase.strength : Phrase → Nat
  | .binary _ op _ => op.precedence
  | .unary _ _ => 7
  | _ => 8

/-- Words between parentheses. -/
def parenthesized (ws : List Word) : List Word :=
  .leftParen :: (ws ++ [.rightParen])

/-- The words of a part where a strength is asked for: between parentheses if they hold together
less tightly. -/
def wrapped (least strength : Nat) (ws : List Word) : List Word :=
  if strength < least then parenthesized ws else ws

mutual

/-- The words of a phrase. -/
def Phrase.words : Phrase → List Word
  | .number n => [.number n]
  | .string s => [.string s]
  | .bool b => [.bool b]
  | .null => [.null]
  | .ident x => [.ident x]
  | .unary op p => op.word :: wrapped 7 p.strength p.words
  | .binary l op r =>
    wrapped op.precedence l.strength l.words ++
      op.word :: wrapped (op.precedence + 1) r.strength r.words
  | .member p x => wrapped 8 p.strength p.words ++ [.dot, .ident x]
  | .index p k => wrapped 8 p.strength p.words ++ .leftBracket :: (k.words ++ [.rightBracket])
  | .call f args =>
    .ident f :: .leftParen :: ([.comma].intercalate (Phrase.wordLists args) ++ [.rightParen])
  | .array items =>
    .leftBracket :: ([.comma].intercalate (Phrase.wordLists items) ++ [.rightBracket])
  | .object fields =>
    .leftBrace :: ([.comma].intercalate (PhraseField.wordLists fields) ++ [.rightBrace])

/-- The words of each phrase. -/
def Phrase.wordLists : List Phrase → List (List Word)
  | [] => []
  | p :: rest => p.words :: Phrase.wordLists rest

/-- The words of a field. -/
def PhraseField.words : PhraseField → List Word
  | .pair k p => .string k :: .colon :: p.words
  | .short k => [.string k]

/-- The words of each field. -/
def PhraseField.wordLists : List PhraseField → List (List Word)
  | [] => []
  | f :: rest => f.words :: PhraseField.wordLists rest

end

/-- The text of a phrase. -/
def Phrase.write (p : Phrase) : String :=
  joined p.words

/-! ## What can be written -/

/-- What a condition or a script can say: names are identifiers, numbers are values of numerals,
and keys are any texts. A field whose value is the variable of its name needs no more than a key. -/
inductive Term.Sayable : Term → Prop where
  | number (n : Numeral) : Sayable (.literal (Value.ofFloat n.value))
  | string (s : String) : Sayable (.literal (.string s))
  | bool (b : Bool) : Sayable (.literal (.bool b))
  | null : Sayable (.literal .null)
  | ident {x} (name : isIdentifier x = true) : Sayable (.ident x)
  | unary {op e} (h : Sayable e) : Sayable (.unary op e)
  | binary {l op r} (left : Sayable l) (right : Sayable r) : Sayable (.binary l op r)
  | member {e x} (h : Sayable e) (name : isIdentifier x = true) : Sayable (.member e x)
  | index {e i} (h : Sayable e) (key : Sayable i) : Sayable (.index e i)
  | call {f args} (name : isIdentifier f = true) (h : ∀ a ∈ args, Sayable a) : Sayable (.call f args)
  | array {items} (h : ∀ a ∈ items, Sayable a) : Sayable (.array items)
  | object {fields} (h : ∀ f ∈ fields, f.2 ≠ .ident f.1 → Sayable f.2) : Sayable (.object fields)

theorem exists_phrases {es : List Term} (h : ∀ e ∈ es, ∃ p : Phrase, p.expr = e) :
    ∃ ps, Phrase.exprs ps = es := by
  induction es with
  | nil => exact ⟨[], rfl⟩
  | cons e es ih =>
    obtain ⟨p, rfl⟩ := h e List.mem_cons_self
    obtain ⟨ps, rfl⟩ := ih fun e' mem => h e' (List.mem_cons_of_mem _ mem)
    exact ⟨p :: ps, rfl⟩

theorem exists_fields {fs : List (String × Term)}
    (h : ∀ f ∈ fs, f.2 ≠ .ident f.1 → ∃ p : Phrase, p.expr = f.2) :
    ∃ ps, PhraseField.exprs ps = fs := by
  induction fs with
  | nil => exact ⟨[], rfl⟩
  | cons f fs ih =>
    obtain ⟨ps, rfl⟩ := ih fun f' mem => h f' (List.mem_cons_of_mem _ mem)
    obtain ⟨k, e⟩ := f
    by_cases short : e = .ident k
    · subst short
      exact ⟨.short ⟨.single, k⟩ :: ps, rfl⟩
    · obtain ⟨p, rfl⟩ := h (k, e) List.mem_cons_self short
      exact ⟨.pair ⟨.single, k⟩ p :: ps, rfl⟩

/-- **What can be said is written by a phrase.** -/
theorem Term.Sayable.exists_phrase {e : Term} (h : e.Sayable) : ∃ p : Phrase, p.expr = e := by
  induction h with
  | number n => exact ⟨.number n, rfl⟩
  | string s => exact ⟨.string ⟨.single, s⟩, rfl⟩
  | bool b => exact ⟨.bool b, rfl⟩
  | null => exact ⟨.null, rfl⟩
  | ident name => exact ⟨.ident ⟨_, name⟩, rfl⟩
  | unary _ ih =>
    obtain ⟨p, rfl⟩ := ih
    exact ⟨.unary _ p, rfl⟩
  | binary _ _ ihl ihr =>
    obtain ⟨l, rfl⟩ := ihl
    obtain ⟨r, rfl⟩ := ihr
    exact ⟨.binary l _ r, rfl⟩
  | member _ name ih =>
    obtain ⟨p, rfl⟩ := ih
    exact ⟨.member p ⟨_, name⟩, rfl⟩
  | index _ _ ih ihk =>
    obtain ⟨p, rfl⟩ := ih
    obtain ⟨k, rfl⟩ := ihk
    exact ⟨.index p k, rfl⟩
  | call name _ ih =>
    obtain ⟨ps, rfl⟩ := exists_phrases ih
    exact ⟨.call ⟨_, name⟩ ps, rfl⟩
  | array _ ih =>
    obtain ⟨ps, rfl⟩ := exists_phrases ih
    exact ⟨.array ps, rfl⟩
  | object _ ih =>
    obtain ⟨fs, rfl⟩ := exists_fields ih
    exact ⟨.object fs, rfl⟩

/-! ## First words -/

/-- Whether an expression can begin with the token. -/
def TokenKind.opens : TokenKind → Bool
  | number _ => true
  | string _ => true
  | ident _ => true
  | kwTrue => true
  | kwFalse => true
  | kwNull => true
  | leftParen => true
  | leftBracket => true
  | leftBrace => true
  | bang => true
  | minus => true
  | _ => false

/-- Words that begin as an expression does. -/
def Opens (ws : List Word) : Prop :=
  ∃ w rest, ws = w :: rest ∧ w.kind.opens = true

theorem Opens.cons {w : Word} (h : w.kind.opens = true) (rest : List Word) : Opens (w :: rest) :=
  ⟨w, rest, rfl, h⟩

theorem Opens.append {ws : List Word} (h : Opens ws) (vs : List Word) : Opens (ws ++ vs) := by
  obtain ⟨w, rest, rfl, opens⟩ := h
  exact .cons opens _

theorem Opens.wrapped {ws : List Word} (h : Opens ws) (least strength : Nat) :
    Opens (wrapped least strength ws) := by
  unfold Expr.wrapped
  split
  · exact .cons rfl _
  · exact h

/-- **A phrase begins as an expression does.** -/
theorem Phrase.opens : ∀ p : Phrase, Opens p.words
  | .number _ => .cons rfl _
  | .string _ => .cons rfl _
  | .bool b => .cons (by cases b <;> rfl) _
  | .null => .cons rfl _
  | .ident _ => .cons rfl _
  | .unary op _ => .cons (by cases op <;> rfl) _
  | .binary l _ _ => (l.opens.wrapped _ _).append _
  | .member p _ => (p.opens.wrapped _ _).append _
  | .index p _ => (p.opens.wrapped _ _).append _
  | .call _ _ => .cons rfl _
  | .array _ => .cons rfl _
  | .object _ => .cons rfl _

/-! ## Words at the front of tokens -/

namespace Spelled

variable {ws vs : List Word} {ts rest : List Token}

theorem cons_iff {w : Word} :
    Spelled (w :: ws) ts rest ↔ ∃ pos tail, ts = ⟨w.kind, pos⟩ :: tail ∧ Spelled ws tail rest := by
  constructor
  · intro h
    cases h with
    | cons _ pos h => exact ⟨pos, _, rfl, h⟩
  · rintro ⟨pos, tail, rfl, h⟩
    exact .cons w pos h

theorem nil_iff : Spelled [] ts rest ↔ ts = rest := by
  constructor
  · intro h
    cases h
    rfl
  · rintro rfl
    exact .nil ts

theorem append_iff :
    Spelled (ws ++ vs) ts rest ↔ ∃ mid, Spelled ws ts mid ∧ Spelled vs mid rest := by
  constructor
  · intro h
    induction ws generalizing ts with
    | nil => exact ⟨ts, .nil ts, h⟩
    | cons w ws ih =>
      cases h with
      | cons _ pos h =>
        obtain ⟨mid, front, back⟩ := ih h
        exact ⟨mid, .cons w pos front, back⟩
  · rintro ⟨mid, front, back⟩
    induction front with
    | nil => exact back
    | cons w pos _ ih => exact .cons w pos (ih back)

theorem length_eq (h : Spelled ws ts rest) : ts.length = ws.length + rest.length := by
  induction h with
  | nil => simp
  | cons w pos _ ih =>
    simp only [List.length_cons, ih]
    omega

/-- The first token of words that begin as an expression does. -/
theorem opens (h : Spelled ws ts rest) (begins : Opens ws) : (peek ts).kind.opens = true := by
  obtain ⟨w, ws, rfl, opens⟩ := begins
  cases h with
  | cons _ pos _ => exact opens

end Spelled

end Automation.Expr
