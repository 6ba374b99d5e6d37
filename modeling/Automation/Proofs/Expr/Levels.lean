import Automation.Expr.Parser

/-!
# Levels of nesting

The levels that a rule of the grammar is given decide whether it comes to its end, and not what it
comes to: with too few of them it refuses, and from some number on it answers one and the same
(`Settles`). For the rules of expressions this number is at most one more than there are tokens
before them (`settling`), because whatever takes levels takes tokens too.
-/

namespace Automation.Expr

/-! ## Computations with levels -/

/-- An answer that does not ask for more levels; what is answered has a property. -/
inductive Final (P : α → Prop) : Except Refusal α → Prop where
  | malformed (pos : Nat) (fault : Fault) : Final P (.error (.malformed pos fault))
  | ok {a : α} (h : P a) : Final P (.ok a)

/-- A computation that is given some levels settles within a number of them: below a threshold it
refuses for want of levels, and from there on it has one answer, which has a property. -/
def Settles (x : Nat → Except Refusal α) (n : Nat) (P : α → Prop) : Prop :=
  ∃ threshold ≤ n, ∃ answer, Final P answer ∧
    (∀ d < threshold, x d = .error .tooDeep) ∧ ∀ d, threshold ≤ d → x d = answer

namespace Settles

variable {x : Nat → Except Refusal α} {y : Nat → Except Refusal β} {n : Nat} {P : α → Prop}
  {Q : β → Prop}

theorem mono {m : Nat} {P' : α → Prop} (h : Settles x n P) (le : n ≤ m)
    (imp : ∀ a, P a → P' a) : Settles x m P' := by
  obtain ⟨threshold, within, answer, final, below, above⟩ := h
  refine ⟨threshold, Nat.le_trans within le, answer, ?_, below, above⟩
  cases final with
  | malformed pos fault => exact .malformed pos fault
  | ok h => exact .ok (imp _ h)

/-- What is answered has the property, whatever the levels. -/
theorem holds (h : Settles x n P) {d : Nat} {a : α} (answered : x d = .ok a) : P a := by
  obtain ⟨threshold, -, answer, final, below, above⟩ := h
  by_cases few : d < threshold
  · rw [below d few] at answered
    cases answered
  · rw [above d (Nat.le_of_not_lt few)] at answered
    subst answered
    cases final with
    | ok holds => exact holds

/-- What is answered is answered with more levels, too. -/
theorem stays (h : Settles x n P) {d d' : Nat} {a : α} (answered : x d = .ok a) (le : d ≤ d') :
    x d' = .ok a := by
  obtain ⟨threshold, -, answer, -, below, above⟩ := h
  by_cases few : d < threshold
  · rw [below d few] at answered
    cases answered
  · have reached : threshold ≤ d := Nat.le_of_not_lt few
    rw [above d' (Nat.le_trans reached le), ← above d reached, answered]

theorem congr {x' : Nat → Except Refusal α} (h : Settles x n P) (same : ∀ d, x' d = x d) :
    Settles x' n P := by
  rwa [funext same]

/-- A computation that needs no levels. -/
theorem answered {answer : Except Refusal α} (final : Final P answer) (same : ∀ d, x d = answer) :
    Settles x n P :=
  ⟨0, Nat.zero_le n, answer, final, fun _ lt => absurd lt (Nat.not_lt_zero _), fun d _ => same d⟩

theorem done {a : α} (same : ∀ d, x d = .ok a) (h : P a) : Settles x n P :=
  answered (.ok h) same

theorem stop {pos : Nat} {fault : Fault} (same : ∀ d, x d = .error (.malformed pos fault)) :
    Settles x n P :=
  answered (.malformed pos fault) same

/-- A computation that takes a level first. -/
theorem level (none : x 0 = .error .tooDeep) (less : Settles (fun d => x (d + 1)) n P) :
    Settles x (n + 1) P := by
  obtain ⟨threshold, within, answer, final, below, above⟩ := less
  refine ⟨threshold + 1, Nat.succ_le_succ within, answer, final, fun d lt => ?_, fun d le => ?_⟩
  · cases d with
    | zero => exact none
    | succ d => exact below d (Nat.lt_of_succ_lt_succ lt)
  · cases d with
    | zero => exact absurd le (Nat.not_succ_le_zero threshold)
    | succ d => exact above d (Nat.le_of_succ_le_succ le)

/-- One computation after another one, with the same levels. The second one may depend on the answer
of the first, but not on the levels. -/
theorem andThen (first : Settles x n P) (failed : ∀ d e, x d = .error e → y d = .error e)
    (further : ∀ a, P a → ∃ z, Settles z n Q ∧ ∀ d, x d = .ok a → y d = z d) : Settles y n Q := by
  obtain ⟨threshold, within, answer, final, below, above⟩ := first
  cases final with
  | malformed pos fault =>
    exact ⟨threshold, within, _, .malformed pos fault, fun d lt => failed d _ (below d lt),
      fun d le => failed d _ (above d le)⟩
  | @ok a h =>
    obtain ⟨z, ⟨threshold', within', answer, final, below', above'⟩, same⟩ := further a h
    refine ⟨max threshold threshold', Nat.max_le.mpr ⟨within, within'⟩, answer, final,
      fun d lt => ?_, fun d le => ?_⟩
    · -- Either the levels are too few for the first computation, or for the second one.
      by_cases early : d < threshold
      · exact failed d _ (below d early)
      · rw [same d (above d (by omega)), below' d (by omega)]
    · rw [same d (above d (by omega)), above' d (by omega)]

/-- What a computation answers, put into another form. -/
theorem map {f : α → β} (first : Settles x n P) (failed : ∀ d e, x d = .error e → y d = .error e)
    (ok : ∀ d a, x d = .ok a → y d = .ok (f a)) (h : ∀ a, P a → Q (f a)) : Settles y n Q :=
  first.andThen failed fun a holds =>
    ⟨fun _ => .ok (f a), .done (fun _ => rfl) (h a holds), fun d => ok d a⟩

/-- Two computations, the second one after the first, and what both answer put together. -/
theorem both {w : α → Nat → Except Refusal γ} {R : α → γ → Prop} {f : α → γ → β}
    (first : Settles x n P) (second : ∀ a, P a → Settles (w a) n (R a))
    (failed : ∀ d e, x d = .error e → y d = .error e)
    (failed' : ∀ d a e, x d = .ok a → w a d = .error e → y d = .error e)
    (ok : ∀ d a c, x d = .ok a → w a d = .ok c → y d = .ok (f a c))
    (h : ∀ a c, P a → R a c → Q (f a c)) : Settles y n Q := by
  refine first.andThen failed fun a holds => ⟨fun d => (w a d).map (f a), ?_, fun d read => ?_⟩
  · exact (second a holds).map (fun d e failed => by rw [failed]; rfl)
      (fun d c ok => by rw [ok]; rfl) fun c => h a c holds
  · cases next : w a d with
    | error e => exact (failed' d a e read next).trans (by simp only [next]; rfl)
    | ok c => exact (ok d a c read next).trans (by simp only [next]; rfl)

end Settles

/-! ## Lists -/

/-- A rule has taken tokens. -/
abbrev Shorter (ts : List Token) (read : α × List Token) : Prop :=
  read.2.length < ts.length

/-- A rule has not put tokens back. -/
abbrev NoLonger (ts : List Token) (read : α × List Token) : Prop :=
  read.2.length ≤ ts.length

/-- A rule settles on tokens up to a number, and takes some of them. -/
def SettlesUpTo (size n : Nat) (rule : Nat → List Token → Parse α) : Prop :=
  ∀ ts, ts.length ≤ size → Settles (fun d => rule d ts) n (Shorter ts)

section Lists

variable {size n : Nat}

/-- The answer of a list after its last item. -/
theorem final_of_close {ts rest : List Token} {a : α} (shorter : rest.length < ts.length)
    (close : TokenKind → Bool) (what : String) :
    Final (NoLonger ts)
      (if close (peek rest).kind then .ok ([a], rest.tail) else .error (unexpected what rest)) := by
  split
  · exact .ok (by simp only [NoLonger, List.length_tail]; omega)
  · exact .malformed _ _

/-- A list settles as its items do. -/
theorem items_settles {item : Nat → List Token → Parse α} (h : SettlesUpTo size n item)
    (close : TokenKind → Bool) (what : String) (fuel : Nat) (ts : List Token)
    (fits : ts.length ≤ size) :
    Settles (fun d => items (item d) close what fuel ts) n (NoLonger ts) := by
  induction fuel generalizing ts with
  | zero => exact .stop fun d => rfl
  | succ fuel ih =>
    by_cases closed : close (peek ts).kind = true
    · exact .done (fun d => by rw [items, if_pos closed]) (by simp)
    refine (h ts fits).andThen (fun d e failed => by rw [items, if_neg closed, failed]) ?_
    rintro ⟨a, rest⟩ shorter
    have last := final_of_close (a := a) shorter close what
    rcases rest with _ | ⟨⟨kind, pos⟩, rest⟩
    · exact ⟨_, .answered last fun d => rfl, fun d read => by rw [items, if_neg closed, read]⟩
    cases kind with
    | comma =>
      have shorter : rest.length + 1 < ts.length := shorter
      refine ⟨_, (ih rest (by omega)).map (f := fun read => (a :: read.1, read.2))
        (fun d e failed => ?_) (fun d read others => ?_) fun read noLonger => ?_,
        fun d read => by rw [items, if_neg closed, read]⟩
      · simp only [failed]
      · simp only [others]
      · have noLonger : read.2.length ≤ rest.length := noLonger
        show read.2.length ≤ ts.length
        omega
    | _ => exact ⟨_, .answered last fun d => rfl, fun d read => by rw [items, if_neg closed, read]⟩

variable {expression : Nat → List Token → Parse Term} (h : SettlesUpTo size n expression)
include h

theorem arguments_settles (ts : List Token) (fits : ts.length ≤ size) :
    Settles (fun d => arguments (expression d) ts) n (NoLonger ts) :=
  items_settles h _ _ _ ts fits

/-- A field settles as the expression in it does. -/
theorem objectField_settles : SettlesUpTo size n fun d => objectField (expression d) := by
  intro ts fits
  rcases ts with _ | ⟨⟨kind, pos⟩, ts⟩
  · exact .stop fun d => rfl
  cases kind with
  | ident k | string k =>
    rcases ts with _ | ⟨⟨kind, pos⟩, ts⟩
    · exact .done (fun d => rfl) (by simp)
    cases kind with
    | colon =>
      have fits : ts.length + 2 ≤ size := fits
      refine (h ts (by omega)).map (f := fun read => ((k, read.1), read.2)) (fun d e failed => ?_)
        (fun d read value => ?_) fun read shorter => ?_
      · simp only [objectField, failed]
      · simp only [objectField, value]
      · exact Nat.lt_succ_of_lt (Nat.lt_succ_of_lt shorter)
    | _ => exact .done (fun d => rfl) (by simp)
  | _ => exact .stop fun d => rfl

/-- A primary expression settles as the expressions in it do, which come behind its first token. -/
theorem primary_settles (ts : List Token) (fits : ts.length ≤ size + 1) :
    Settles (fun d => primary (expression d) ts) n (Shorter ts) := by
  rcases ts with _ | ⟨⟨kind, pos⟩, ts⟩
  · exact .stop fun d => rfl
  replace fits : ts.length ≤ size := Nat.le_of_succ_le_succ fits
  cases kind with
  | number | string | kwTrue | kwFalse | kwNull | ident => exact .done (fun d => rfl) (by simp)
  | leftParen =>
    refine (h ts fits).andThen (fun d e failed => by simp only [primary, failed]) ?_
    rintro ⟨e, rest⟩ shorter
    rcases rest with _ | ⟨⟨kind, pos⟩, rest⟩
    · exact ⟨_, .stop fun d => rfl, fun d read => by simp only [primary, read]; rfl⟩
    cases kind with
    | rightParen =>
      have shorter : rest.length + 1 < ts.length := shorter
      refine ⟨_, .done (fun d => rfl) ?_, fun d read => by simp only [primary, read]; rfl⟩
      show rest.length < ts.length + 1
      omega
    | _ => exact ⟨_, .stop fun d => rfl, fun d read => by simp only [primary, read]; rfl⟩
  | leftBracket =>
    have inner := items_settles h isRightBracket "',' or ']'" (ts.length + 1) ts fits
    refine inner.map (f := fun read => (.array read.1, read.2)) (fun d e failed => ?_)
      (fun d read value => ?_) fun read noLonger => ?_
    · simp only [primary, failed]
    · simp only [primary, value]
    · exact Nat.lt_succ_of_le noLonger
  | leftBrace =>
    have inner := items_settles (objectField_settles h) isRightBrace "',' or '\x7d'" (ts.length + 1)
      ts fits
    refine inner.map (f := fun read => (.object read.1, read.2)) (fun d e failed => ?_)
      (fun d read value => ?_) fun read noLonger => ?_
    · simp only [primary, failed]
    · simp only [primary, value]
    · exact Nat.lt_succ_of_le noLonger
  | _ => exact .stop fun d => rfl

end Lists

/-! ## Expressions -/

theorem unaryOperator?_shorter {ts mid : List Token} {op : UnaryOp}
    (h : unaryOperator? ts = some (op, mid)) : mid.length < ts.length := by
  unfold unaryOperator? at h
  split at h <;> cases h <;> exact Nat.lt_succ_self _

theorem binaryOperator?_shorter {least : Nat} {ts mid : List Token} {op : BinaryOp}
    (h : binaryOperator? least ts = some (op, mid)) : mid.length < ts.length := by
  unfold binaryOperator? at h
  split at h
  next =>
    split at h
    next =>
      split at h <;> cases h
      exact Nat.lt_succ_self _
    next => cases h
  next => cases h

/-- The rules for expressions settle on tokens. -/
structure Settling (ts : List Token) : Prop where
  expression : ∀ least, Settles (fun d => Expr.expression d least ts) (ts.length + 1) (Shorter ts)
  chain : ∀ least left, Settles (fun d => Expr.chain d least left ts) (ts.length + 1) (NoLonger ts)
  operand : Settles (fun d => Expr.operand d ts) ts.length (Shorter ts)
  suffixes : ∀ head, Settles (fun d => Expr.suffixes d head ts) (ts.length + 1) (NoLonger ts)

section Rules

variable {ts : List Token} (less : ∀ ts', ts'.length < ts.length → Settling ts')
include less

/-- The rules settle behind the first token. -/
theorem expression_settlesUpTo {size n : Nat} (fits : size < ts.length) (enough : size < n) :
    SettlesUpTo size n fun d ts => expression d 1 ts := fun ts' le =>
  ((less ts' (by omega)).expression 1).mono (by omega) fun _ => id

theorem chain_settles (least : Nat) (left : Term) :
    Settles (fun d => chain d least left ts) (ts.length + 1) (NoLonger ts) := by
  cases operator : binaryOperator? least ts with
  | none => exact .done (fun d => by rw [chain.eq_def, operator]) (Nat.le_refl _)
  | some found =>
    obtain ⟨op, mid⟩ := found
    have mid_lt := binaryOperator?_shorter operator
    refine .level (by rw [chain.eq_def, operator]) ?_
    refine (((less mid mid_lt).expression (op.precedence + 1)).mono (by omega) fun _ => id).andThen
      (fun d e failed => ?_) ?_
    · rw [chain.eq_def, operator]
      simp only [failed]
    rintro ⟨right, rest⟩ shorter
    have shorter : rest.length < mid.length := shorter
    refine ⟨_, ((less rest (by omega)).chain least (.binary left op right)).mono (by omega) ?_,
      fun d read => ?_⟩
    · intro read noLonger
      exact Nat.le_trans noLonger (by omega)
    · rw [chain.eq_def, operator]
      simp only [read]

/-- A suffix settles on its tokens, and the suffixes after it settle behind it. -/
theorem suffixes_settles (head : Term) :
    Settles (fun d => suffixes d head ts) (ts.length + 1) (NoLonger ts) := by
  rcases ts with _ | ⟨⟨kind, pos⟩, ts⟩
  · exact .done (fun d => by rw [suffixes.eq_def]) (Nat.le_refl _)
  have inner : SettlesUpTo ts.length (ts.length + 1) fun d ts => expression d 1 ts :=
    expression_settlesUpTo less (Nat.lt_succ_self _) (Nat.lt_succ_self _)
  -- The suffixes after the first one.
  have further (e : Term) (rest : List Token) (le : rest.length ≤ ts.length) :
      Settles (fun d => suffixes d e rest) (ts.length + 1) (NoLonger (⟨kind, pos⟩ :: ts)) :=
    ((less rest (Nat.lt_succ_of_le le)).suffixes e).mono (Nat.succ_le_succ le) fun read noLonger =>
      Nat.le_trans noLonger (Nat.le_succ_of_le le)
  -- The arguments of a call, and the suffixes after it.
  have call (f : List Term → Term) (args : List Token) (le : args.length ≤ ts.length)
      {y : Nat → Parse Term}
      (failed : ∀ d e, arguments (fun ts => expression d 1 ts) args = .error e → y d = .error e)
      (ok : ∀ d read, arguments (fun ts => expression d 1 ts) args = .ok read →
        y d = suffixes d (f read.1) read.2) :
      Settles y (ts.length + 1) (NoLonger (⟨kind, pos⟩ :: ts)) :=
    (arguments_settles inner args le).andThen failed fun read noLonger =>
      ⟨_, further (f read.1) read.2 (Nat.le_trans noLonger le), fun d => ok d read⟩
  cases kind with
  | dot =>
    refine .level (by rw [suffixes.eq_def]) ?_
    rcases ts with _ | ⟨⟨kind, pos⟩, ts⟩
    · exact .stop fun d => by rw [suffixes.eq_def]; rfl
    cases kind with
    | ident f =>
      have member := further (.member head f) ts (Nat.le_succ _)
      rcases ts with _ | ⟨⟨kind, pos⟩, ts⟩
      · exact member.congr fun d => by rw [suffixes.eq_def]
      cases kind with
      | leftParen =>
        refine call (fun args => .call f (head :: args)) ts (by simp; omega) (fun d e failed => ?_)
          fun d read ok => ?_
        · rw [suffixes.eq_def]
          simp only [failed]
        · rw [suffixes.eq_def]
          simp only [ok]
      | _ => exact member.congr fun d => by rw [suffixes.eq_def]
    | number x =>
      exact (further (.index head (.literal (Value.ofFloat x))) ts (by simp)).congr fun d => by
        rw [suffixes.eq_def]
    | _ => exact .stop fun d => by rw [suffixes.eq_def]; rfl
  | leftBracket =>
    refine .level (by rw [suffixes.eq_def]) ?_
    refine (inner ts (Nat.le_refl _)).andThen (fun d e failed => ?_) ?_
    · rw [suffixes.eq_def]
      simp only [failed]
    rintro ⟨i, rest⟩ shorter
    rcases rest with _ | ⟨⟨kind, pos⟩, rest⟩
    · exact ⟨_, .stop fun d => rfl, fun d read => by rw [suffixes.eq_def]; simp only [read]; rfl⟩
    cases kind with
    | rightBracket =>
      have shorter : rest.length + 1 < ts.length := shorter
      refine ⟨_, further (.index head i) rest (by omega), fun d read => ?_⟩
      rw [suffixes.eq_def]
      simp only [read]
    | _ =>
      exact ⟨_, .stop fun d => rfl,
        fun d read => by rw [suffixes.eq_def]; simp only [read]; rfl⟩
  | leftParen =>
    refine .level (by rw [suffixes.eq_def]) ?_
    cases head with
    | ident f =>
      refine call (.call f) ts (Nat.le_refl _) (fun d e failed => ?_) fun d read ok => ?_
      · rw [suffixes.eq_def]
        simp only [failed]
      · rw [suffixes.eq_def]
        simp only [ok]
    | _ => exact .stop fun d => by rw [suffixes.eq_def]
  | _ => exact .done (fun d => by rw [suffixes.eq_def]) (Nat.le_refl _)

theorem operand_settles : Settles (fun d => operand d ts) ts.length (Shorter ts) := by
  cases operator : unaryOperator? ts with
  | some found =>
    obtain ⟨op, mid⟩ := found
    have mid_lt := unaryOperator?_shorter operator
    have inner : Settles (fun d => operand (d + 1) ts) mid.length (Shorter ts) := by
      refine (less mid mid_lt).operand.map (f := fun read => (.unary op read.1, read.2))
        (fun d e failed => ?_) (fun d read value => ?_) fun read shorter => ?_
      · rw [operand.eq_def, operator]
        simp only [failed]
      · rw [operand.eq_def, operator]
        simp only [value]
      · exact Nat.lt_trans shorter mid_lt
    exact (Settles.level (by rw [operand.eq_def, operator]) inner).mono mid_lt fun _ => id
  | none =>
    rcases ts with _ | ⟨t, ts⟩
    · exact .stop fun d => by rw [operand.eq_def]; rfl
    have inner : SettlesUpTo ts.length (ts.length + 1) fun d ts => expression d 1 ts :=
      expression_settlesUpTo less (Nat.lt_succ_self _) (Nat.lt_succ_self _)
    refine (primary_settles inner (t :: ts) (Nat.le_refl _)).andThen (fun d e failed => ?_) ?_
    · rw [operand.eq_def, operator]
      simp only [failed]
    rintro ⟨e, rest⟩ shorter
    have shorter : rest.length < ts.length + 1 := shorter
    refine ⟨_, ((less rest shorter).suffixes e).mono shorter fun read noLonger => ?_,
      fun d read => ?_⟩
    · exact Nat.lt_of_le_of_lt noLonger shorter
    · rw [operand.eq_def, operator]
      simp only [read]

theorem expression_settles (least : Nat) :
    Settles (fun d => expression d least ts) (ts.length + 1) (Shorter ts) := by
  refine .level (by rw [expression.eq_def]) ?_
  refine (operand_settles less).andThen (fun d e failed => ?_) ?_
  · rw [expression.eq_def]
    simp only [failed]
  rintro ⟨left, rest⟩ shorter
  have shorter : rest.length < ts.length := shorter
  refine ⟨_, ((less rest shorter).chain least left).mono shorter fun read noLonger => ?_,
    fun d read => ?_⟩
  · exact Nat.lt_of_le_of_lt noLonger shorter
  · rw [expression.eq_def]
    simp only [read]

end Rules

/-- The rules for expressions settle on any tokens. By induction on their number: what a rule reads
with fewer levels comes behind a token that it has taken. -/
theorem settling (ts : List Token) : Settling ts := by
  induction ts using WellFounded.induction (measure List.length).wf with
  | _ ts less =>
    exact ⟨expression_settles less, chain_settles less, operand_settles less, suffixes_settles less⟩

theorem expression_settles_all (size : Nat) :
    SettlesUpTo size (size + 1) fun d ts => expression d 1 ts := fun ts fits =>
  ((settling ts).expression 1).mono (Nat.succ_le_succ fits) fun _ => id

/-! ## What is taken -/

section Taken

variable {d least : Nat} {e : Term} {ts rest : List Token}

theorem expression_shorter (read : expression d least ts = .ok (e, rest)) :
    rest.length < ts.length :=
  ((settling ts).expression least).holds read

theorem objectField_shorter {f : String × Term}
    (read : objectField (fun ts => expression d 1 ts) ts = .ok (f, rest)) :
    rest.length < ts.length :=
  (objectField_settles (expression_settles_all ts.length) ts (Nat.le_refl _)).holds read

end Taken

end Automation.Expr
