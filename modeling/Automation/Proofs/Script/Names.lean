import Automation.Proofs.Expr.Mentions
import Automation.Proofs.Expr.Reading
import Automation.Proofs.Script.Budget
import Automation.Regex.Reader

/-!
# Scripts depend on the variables that they mention

Two runs of a script whose bindings agree on the variables that it mentions go the same way: they
take the same steps, end alike and leave variables that agree again (`PerformsAll.agree`). So the
outcome of a source is one function of the identifiers in it, and of the quoted keys of fields
without a value, which mention variables too (`outcome_of_names`).
-/

namespace Automation

/-! ## Variables that agree -/

/-- Variables that agree on some names: each has the same value, or none, in both. -/
def AgreeOn (S : String → Prop) (a b : Fields) : Prop :=
  ∀ x, S x → Fields.get? x a = Fields.get? x b

/-- A variable that gets the same value agrees. -/
theorem AgreeOn.insert {S : String → Prop} {a b : Fields} (h : AgreeOn S a b) (x : String)
    (v : Value) : AgreeOn S (Fields.insert x v a) (Fields.insert x v b) := by
  intro y mem
  rw [Fields.get?_insert, Fields.get?_insert, h y mem]

namespace Expr

/-- Whether the variables that are mentioned are among some names. -/
def Within (S : String → Prop) (mentions : List Mention) : Prop :=
  ∀ m ∈ mentions, S m.name

section Agree

variable {S : String → Prop}

theorem within_append {a b : List Mention} : Within S (a ++ b) ↔ Within S a ∧ Within S b :=
  List.forall_mem_append

/-- A field without a value mentions the variable that it reads. -/
theorem Within.field {k : String} {e : Term}
    (h : Within S (if e.isVariable k then [⟨k, true⟩] else e.mentions)) : Within S e.mentions := by
  split at h
  next short =>
    rw [Term.isVariable_iff.mp short]
    simpa [Within, Term.mentions] using h
  next => exact h

variable {a b : Fields}

mutual

/-- **An expression depends on the variables that it mentions.** -/
theorem Term.eval_agree [Regex.Library] (agree : AgreeOn S a b) (mode : Mode) :
    (e : Term) → Within S e.mentions → e.eval mode a = e.eval mode b
  | .literal v, _ => by rw [Term.eval, Term.eval]
  | .ident x, h => by
    have same : Fields.get? x a = Fields.get? x b := agree x (h ⟨x, false⟩ List.mem_cons_self)
    simp only [Term.eval, lookUp, same]
  | .unary op e, h => by
    simp only [Term.eval, e.eval_agree agree mode h]
  | .binary l op r, h => by
    obtain ⟨left, right⟩ := within_append.mp h
    simp only [Term.eval, l.eval_agree agree mode left, r.eval_agree agree mode right]
  | .member e name, h => by
    simp only [Term.eval, e.eval_agree agree mode h]
  | .index e i, h => by
    obtain ⟨object, key⟩ := within_append.mp h
    simp only [Term.eval, e.eval_agree agree mode object, i.eval_agree agree mode key]
  | .call name args, h => by
    simp only [Term.eval, Term.evalItems_agree agree mode args h]
  | .array items, h => by
    simp only [Term.eval, Term.evalItems_agree agree mode items h]
  | .object fields, h => by
    simp only [Term.eval, Term.evalFields_agree agree mode fields h]

theorem Term.evalItems_agree [Regex.Library] (agree : AgreeOn S a b) (mode : Mode) :
    (es : List Term) → Within S (Term.mentionsOfItems es) →
      Term.evalItems mode a es = Term.evalItems mode b es
  | [], _ => by rw [Term.evalItems, Term.evalItems]
  | e :: rest, h => by
    obtain ⟨first, others⟩ := within_append.mp h
    simp only [Term.evalItems, e.eval_agree agree mode first,
      Term.evalItems_agree agree mode rest others]

theorem Term.evalFields_agree [Regex.Library] (agree : AgreeOn S a b) (mode : Mode) :
    (fields : List (String × Term)) → Within S (Term.mentionsOfFields fields) →
      Term.evalFields mode a fields = Term.evalFields mode b fields
  | [], _ => by rw [Term.evalFields, Term.evalFields]
  | (k, e) :: rest, h => by
    obtain ⟨first, others⟩ := within_append.mp h
    simp only [Term.evalFields, e.eval_agree agree mode first.field,
      Term.evalFields_agree agree mode rest others]

end

end Agree

end Expr

namespace Script

open Automation.Expr

section Agree

variable {S : String → Prop}

/-! ## Statements -/

/-- The keys of a path depend on the variables that it mentions. -/
theorem pathKeys_agree [Regex.Library] {a b : Fields} (agree : AgreeOn S a b)
    {path : List PathSegment} (h : Within S (path.flatMap PathSegment.mentions)) :
    pathKeys a path = pathKeys b path := by
  induction path with
  | nil => rw [pathKeys, pathKeys]
  | cons step rest ih =>
    rw [List.flatMap_cons, within_append] at h
    cases step with
    | field name => simp only [pathKeys, ih h.2]
    | index key => simp only [pathKeys, key.eval_agree agree .strict h.1, ih h.2]

/-- An assignment below a variable that agrees ends alike, and the variables agree again. -/
theorem assignPath_agree {a b : Fields} (agree : AgreeOn S a b) {x : String} (mem : S x)
    (keys : List Value) (v : Value) :
    (assignPath a x keys v).1 = (assignPath b x keys v).1 ∧
      AgreeOn S (assignPath a x keys v).2 (assignPath b x keys v).2 := by
  unfold assignPath
  rw [agree x mem]
  cases Fields.get? x b with
  | none => exact ⟨rfl, agree⟩
  | some slot =>
    dsimp only
    cases (storeAt keys v slot).fault with
    | none => exact ⟨rfl, agree.insert x _⟩
    | some fault => exact ⟨rfl, agree.insert x _⟩

/-- What a statement evaluates before all else is mentioned in it. -/
theorem within_firstOperand? {s : Stmt} {e : Term} (first : firstOperand? s = some e)
    (h : Within S s.mentions) : Within S e.mentions := by
  cases s with
  | declare | throw | expr =>
    cases first
    exact h
  | assign =>
    cases first
    exact (within_append.mp fun m mem => h m (List.mem_cons_of_mem _ mem)).2
  | branch => cases first
  | loop =>
    cases first
    exact (within_append.mp h).1
  | ret value =>
    cases first
    exact h

/-- Whether what leads from some variables to others leads from variables that agree with them to
variables that agree again. -/
def Carries (S : String → Prop) (leads : Fields → Fields → Prop) (vars vars' : Fields) : Prop :=
  ∀ other, AgreeOn S vars other → ∃ other', leads other other' ∧ AgreeOn S vars' other'

/-- What leaves the variables as they are. -/
theorem Carries.same {leads : Fields → Fields → Prop} {vars : Fields}
    (h : ∀ other, AgreeOn S vars other → leads other other) : Carries S leads vars vars :=
  fun other agree => ⟨other, h other agree, agree⟩

theorem Carries.imp {leads leads' : Fields → Fields → Prop} {vars vars' : Fields}
    (h : Carries S leads vars vars')
    (imp : ∀ other other', AgreeOn S vars other → leads other other' → leads' other other') :
    Carries S leads' vars vars' := by
  intro other agree
  obtain ⟨other', led, agree'⟩ := h other agree
  exact ⟨other', imp other other' agree led, agree'⟩

/-- One after the other. -/
theorem Carries.trans {first further leads : Fields → Fields → Prop} {vars vars' vars'' : Fields}
    (h : Carries S first vars vars') (h' : Carries S further vars' vars'')
    (imp : ∀ a b c, first a b → further b c → leads a c) : Carries S leads vars vars'' := by
  intro other agree
  obtain ⟨other', led, agree'⟩ := h other agree
  obtain ⟨other'', led', agree''⟩ := h' other' agree'
  exact ⟨other'', imp _ _ _ led led', agree''⟩

/-- With a variable bound first. -/
theorem Carries.bound {leads leads' : Fields → Fields → Prop} {vars vars' : Fields} {x : String}
    {v : Value} (h : Carries S leads (Fields.insert x v vars) vars')
    (imp : ∀ a b, leads (Fields.insert x v a) b → leads' a b) : Carries S leads' vars vars' := by
  intro other agree
  obtain ⟨other', led, agree'⟩ := h _ (agree.insert x v)
  exact ⟨other', imp _ _ led, agree'⟩

/-- **A script goes the same way on variables that agree**, and leaves variables that agree. By
induction on the rules, with the same for statements, conditional statements and loops. -/
theorem PerformsAll.agree [Regex.Library] {ss : List Stmt} {vars vars' : Fields} {n : Nat}
    {ending : Ending} (performs : PerformsAll ss vars n ending vars')
    (h : Within S (Stmt.mentionsOfBlock ss)) :
    Carries S (fun a b => PerformsAll ss a n ending b) vars vars' := by
  induction performs using PerformsAll.rec
    (motive_1 := fun s vars n ending vars' _ =>
      Within S s.mentions → Carries S (fun a b => Performs s a n ending b) vars vars')
    (motive_3 := fun branches otherwise vars n ending vars' _ =>
      Within S (Stmt.mentionsOfBranches branches) → Within S (Stmt.mentionsOfLast otherwise) →
        Carries S (fun a b => Chooses branches otherwise a n ending b) vars vars')
    (motive_4 := fun x body items vars n ending vars' _ =>
      Within S (Stmt.mentionsOfBlock body) →
        Carries S (fun a b => Repeats x body items a n ending b) vars vars') with
  | @fault s e vars err first evaluated within =>
    exact .same fun other agree => .fault first
      (e.eval_agree agree .strict (within_firstOperand? first within) ▸ evaluated)
  | @declare x e vars v evaluated within =>
    intro other agree
    exact ⟨_, .declare (e.eval_agree agree .strict within ▸ evaluated), agree.insert x v⟩
  | @keyFault x path e vars v err evaluated fault within =>
    obtain ⟨steps, value⟩ := within_append.mp (List.forall_mem_cons.mp within).2
    exact .same fun other agree => .keyFault (e.eval_agree agree .strict value ▸ evaluated)
      (pathKeys_agree agree steps ▸ fault)
  | @assign x path e vars v keys answer vars' evaluated resolved stored within =>
    obtain ⟨name, rest⟩ := List.forall_mem_cons.mp within
    obtain ⟨steps, value⟩ := within_append.mp rest
    intro other agree
    obtain ⟨alike, left⟩ := assignPath_agree agree name keys v
    rw [stored] at alike left
    exact ⟨(assignPath other x keys v).2, .assign (e.eval_agree agree .strict value ▸ evaluated)
      (pathKeys_agree agree steps ▸ resolved) (Prod.ext alike.symm rfl), left⟩
  | branch _ ih within =>
    obtain ⟨branches, otherwise⟩ := within_append.mp within
    exact (ih branches otherwise).imp fun _ _ _ => .branch
  | @itemFault x items body vars v err evaluated fault within =>
    exact .same fun other agree => .itemFault
      (items.eval_agree agree .strict (within_append.mp within).1 ▸ evaluated) fault
  | @loop x items body vars v visited n ending vars' evaluated visits _ ih within =>
    obtain ⟨first, block⟩ := within_append.mp within
    exact (ih block).imp fun other _ agree =>
      .loop (items.eval_agree agree .strict first ▸ evaluated) visits
  | retNull => exact .same fun _ _ => .retNull
  | @ret e vars v evaluated within =>
    exact .same fun other agree => .ret (e.eval_agree agree .strict within ▸ evaluated)
  | @throw e vars v evaluated within =>
    exact .same fun other agree => .throw (e.eval_agree agree .strict within ▸ evaluated)
  | @expr e vars v evaluated within =>
    exact .same fun other agree => .expr (e.eval_agree agree .strict within ▸ evaluated)
  | nil => exact .same fun _ _ => .nil
  | next _ _ first further =>
    obtain ⟨here, rest⟩ := within_append.mp h
    exact (first here).trans (further rest) fun _ _ _ => .next
  | stop _ stops first =>
    exact (first (within_append.mp h).1).imp fun _ _ _ led => .stop led stops
  | @conditionFault condition body rest otherwise vars err evaluated branches _ =>
    have first := (within_append.mp (within_append.mp branches).1).1
    exact .same fun other agree =>
      .conditionFault (condition.eval_agree agree .strict first ▸ evaluated)
  | @here condition body rest otherwise vars v n ending vars' evaluated truth _ block branches _ =>
    obtain ⟨first, body⟩ := within_append.mp (within_append.mp branches).1
    exact (block body).imp fun other _ agree =>
      .here (condition.eval_agree agree .strict first ▸ evaluated) truth
  | @later condition body rest otherwise vars v n ending vars' evaluated truth _ further branches
      last =>
    obtain ⟨front, rest⟩ := within_append.mp branches
    exact (further rest last).imp fun other _ agree =>
      .later (condition.eval_agree agree .strict (within_append.mp front).1 ▸ evaluated) truth
  | otherwise _ block _ last => exact (block last).imp fun _ _ _ => .otherwise
  | nothing => exact .same fun _ _ => .nothing
  | noRound => exact .same fun _ _ => .noRound
  | round _ _ block further body =>
    exact ((block body).bound fun _ _ => id).trans (further body) fun _ _ _ => .round
  | lastRound _ stops block body => exact (block body).bound fun _ _ led => .lastRound led stops

end Agree

/-! ## Sources -/

/-- The keys of fields without a value that are mentioned. -/
def shortKeys (mentions : List Mention) : List String :=
  (mentions.filter Mention.short).map Mention.name

/-- The names of the variables that the outcome of a script depends on: the identifiers of its
source, and the keys of its fields without a value, which may be quoted. -/
def scriptNames (depth : Nat) (source : String) : List String :=
  identifiers source ++
    match parseProgram source depth with
    | .ok program => shortKeys (Stmt.mentionsOfBlock program)
    | .error _ => []

/-- The names of the variables that the outcome of a condition depends on. -/
def conditionNames (source : String) : List String :=
  identifiers source ++
    match parseExpression source conditionDepth with
    | .ok e => shortKeys e.mentions
    | .error _ => []

/-- A variable is mentioned by an identifier or by the key of a field without a value. -/
theorem within_names {mentions : List Mention} {names : List String}
    (named : ∀ m ∈ mentions, m.short = false → m.name ∈ names) :
    Within (· ∈ names ++ shortKeys mentions) mentions := by
  intro m mem
  cases short : m.short with
  | false => exact List.mem_append_left _ (named m mem short)
  | true =>
    exact List.mem_append_right _ (List.mem_map_of_mem (List.mem_filter.mpr ⟨mem, short⟩))

/-- The outcome of a script depends on the variables of its names. -/
theorem run_agree [Regex.Library] (limits : Limits) {source : String} {a b : Fields}
    (agree : AgreeOn (· ∈ scriptNames limits.depth source) a b) :
    run limits source a = run limits source b := by
  unfold scriptNames at agree
  unfold run
  cases read : parseProgram source limits.depth with
  | error e => rfl
  | ok program =>
    simp only [read] at agree
    have within := within_names fun m mem => parseProgram_mentions read mem
    obtain ⟨n, ending, ⟨vars, performs, free⟩, exhausted, enough⟩ := exists_threshold program a
    obtain ⟨n', ending', ⟨vars', performs', free'⟩, exhausted', enough'⟩ :=
      exists_threshold program b
    obtain ⟨_, led, _⟩ := performs.agree within b agree
    obtain ⟨rfl, rfl, rfl⟩ := led.unique performs'
    dsimp only
    by_cases lasts : n ≤ limits.steps
    · rw [enough _ lasts, enough' _ lasts, free, free']
    · rw [exhausted _ (Nat.lt_of_not_le lasts), exhausted' _ (Nat.lt_of_not_le lasts)]

/-- The outcome of a condition depends on the fields of its names, unless it names the context. -/
theorem evaluateCondition_agree [Regex.Library] {source : String} {a b : Fields}
    (agree : AgreeOn (· ∈ conditionNames source) a b)
    (other : contextName ∉ conditionNames source) :
    evaluateCondition source a = evaluateCondition source b := by
  have bound : AgreeOn (· ∈ conditionNames source) (bindingsOfContext a) (bindingsOfContext b) := by
    intro x mem
    have ne : x ≠ contextName := by
      rintro rfl
      exact other mem
    rw [bindingsOfContext, bindingsOfContext, Fields.get?_insert_of_ne ne,
      Fields.get?_insert_of_ne ne, agree x mem]
  unfold conditionNames at bound
  unfold evaluateCondition evaluateSource
  cases read : parseExpression source conditionDepth with
  | error e => rfl
  | ok e =>
    simp only [read] at bound
    have within := within_names fun m mem => parseExpression_mentions read mem
    dsimp only
    rw [e.eval_agree bound .lenient within]

/-! ## Quoted keys -/

/-- A text of a token. -/
structure Piece where
  text : List Char
  kind : TokenKind
  denotes : Denotes text kind

/-- A token without content in its first spelling. -/
def Piece.plain (kind : TokenKind) (some : kind.spellings ≠ []) : Piece where
  text := (kind.spellings.head some).toList
  kind := kind
  denotes := .mark (List.head_mem some)

/-- A quoted key, with a backslash in it that is not in the key. -/
def Piece.quotedKey : Piece where
  text := ['\'', 'a', '\\', 'b', '\'']
  kind := .string "ab"
  denotes := .string .single (.plain (by decide) (by decide) (.escaped 'b' .nil))

/-- The characters of pieces, with a space behind each. -/
def spread (pieces : List Piece) : List Char :=
  pieces.flatMap fun p => p.text ++ [' ']

/-- The tokens of pieces with a space behind each, from a byte offset on. -/
def placed (pos : Nat) : List Piece → List Token
  | [] => [⟨.eof, pos⟩]
  | p :: rest => ⟨p.kind, pos⟩ :: placed (pos + byteSize p.text + 1) rest

theorem scan_spread (pieces : List Piece) (pos : Nat) :
    scan pos (spread pieces) = .ok (placed pos pieces) := by
  have blank : Text.isBlank ' ' = true := by decide
  induction pieces generalizing pos with
  | nil => exact scan_nil pos
  | cons p rest ih =>
    rw [spread] at ih ⊢
    rw [List.flatMap_cons, List.append_assoc, List.singleton_append,
      p.denotes.scan pos (.cons blank _), scan_blank blank, ih]
    rfl

/-- An object whose only field has the quoted key and no value. -/
def shortObject : List Piece :=
  [.plain .leftBrace (by decide), .quotedKey, .plain .rightBrace (by decide)]

/-- The field of such an object. -/
def ownField : List Piece :=
  shortObject ++ [.plain .leftBracket (by decide), .quotedKey, .plain .rightBracket (by decide)]

theorem tokenize_return : tokenize "return \x7b 'a\\b' \x7d " =
    .ok (placed 0 (.plain .kwReturn (by decide) :: shortObject)) := by
  rw [← scan_spread]
  exact congrArg (scan 0) (by decide)

theorem tokenize_ownField :
    tokenize "\x7b 'a\\b' \x7d [ 'a\\b' ] " = .ok (placed 0 ownField) := by
  rw [← scan_spread]
  exact congrArg (scan 0) (by decide)

/-- The short object is read, and then what goes on with it. -/
theorem operand_shortObject {depth pos pos' pos'' : Nat} {ts : List Token} {r : Parse Term}
    (goesOn : suffixes depth (.object [("ab", .ident "ab")]) ts = r) :
    operand depth (⟨.leftBrace, pos⟩ :: ⟨.string "ab", pos'⟩ :: ⟨.rightBrace, pos''⟩ :: ts) = r :=
  operand_of_primary rfl rfl goesOn

theorem parseProgram_return : parseProgram "return \x7b 'a\\b' \x7d " conditionDepth =
    .ok [.ret (some (.object [("ab", .ident "ab")]))] := by
  have ends : Ends [⟨.eof, 17⟩] := ⟨rfl, rfl⟩
  have value : expression conditionDepth 1 (placed 7 shortObject) =
      .ok (.object [("ab", .ident "ab")], [⟨.eof, 17⟩]) :=
    expression_of (operand_shortObject (suffixes_stop ends.1)) (ends.chain _ _ _)
  have returned : returning (expression conditionDepth 1) (placed 7 shortObject) =
      .ok (.ret (some (.object [("ab", .ident "ab")])), [⟨.eof, 17⟩]) := by
    unfold returning
    rw [value]
    rfl
  have first : statement conditionDepth (⟨.kwReturn, 0⟩ :: placed 7 shortObject) =
      .ok (.ret (some (.object [("ab", .ident "ab")])), [⟨.eof, 17⟩]) := by
    rw [statement.eq_def]
    dsimp only
    rw [returned]
    rfl
  have all : statements conditionDepth 6 (⟨.kwReturn, 0⟩ :: placed 7 shortObject) =
      .ok [.ret (some (.object [("ab", .ident "ab")]))] := by
    rw [statements]
    simp only [first]
    rfl
  rw [parseProgram, tokenize_return]
  exact congrArg (Except.mapError _) all

theorem parseExpression_ownField :
    parseExpression "\x7b 'a\\b' \x7d [ 'a\\b' ] " conditionDepth =
      .ok (.index (.object [("ab", .ident "ab")]) (.literal (.string "ab"))) := by
  have ends : Ends [⟨.eof, 20⟩] := ⟨rfl, rfl⟩
  have closed : Ends [⟨.rightBracket, 18⟩, ⟨.eof, 20⟩] := ⟨rfl, rfl⟩
  have key : expression (conditionDepth - 2) 1
      [⟨.string "ab", 12⟩, ⟨.rightBracket, 18⟩, ⟨.eof, 20⟩] =
        .ok (.literal (.string "ab"), [⟨.rightBracket, 18⟩, ⟨.eof, 20⟩]) :=
    expression_of (operand_of_primary rfl rfl (suffixes_stop closed.1)) (closed.chain _ _ _)
  have whole : expression conditionDepth 1 (placed 0 ownField) =
      .ok (.index (.object [("ab", .ident "ab")]) (.literal (.string "ab")), [⟨.eof, 20⟩]) :=
    expression_of (operand_shortObject (suffixes_index key (suffixes_stop ends.1)))
      (ends.chain _ _ _)
  rw [parseExpression, tokenize_ownField]
  simp only [parseTokens, whole]
  rfl

/-- **The outcome of a source is a function of the variables of its names**: two bindings that agree
on the identifiers of a script and on the keys of its fields without a value have the same outcome
within all limits, and so have two contexts of a condition that does not name the context. -/
theorem outcome_of_names [Regex.Library] (limits : Limits) (source : String) (a b : Fields) :
    (AgreeOn (· ∈ scriptNames limits.depth source) a b →
      run limits source a = run limits source b) ∧
      (AgreeOn (· ∈ conditionNames source) a b → contextName ∉ conditionNames source →
        evaluateCondition source a = evaluateCondition source b) :=
  ⟨run_agree limits, evaluateCondition_agree⟩

/-- **The identifiers of a source are not enough**: a quoted key without a value reads the variable
that it names, in a script and in a condition, even if the name stands nowhere in the source. -/
theorem not_outcome_of_identifiers :
    (¬∀ (limits : Limits) (source : String) (a b : Fields),
      AgreeOn (fun x => x ∈ identifiers source ∨ Text.contains source x = true) a b →
        run limits source a = run limits source b) ∧
      ¬∀ (source : String) (a b : Fields),
        AgreeOn (fun x => x ∈ identifiers source ∨ Text.contains source x = true) a b →
          contextName ∉ identifiers source →
            evaluateCondition source a = evaluateCondition source b := by
  have agree {source : String} (none : identifiers source = [])
      (nowhere : Text.contains source "ab" = false) :
      AgreeOn (fun x => x ∈ identifiers source ∨ Text.contains source x = true)
        [("ab", .bool true)] [] := by
    rintro x (mem | mem)
    · rw [none] at mem
      cases mem
    · have ne : "ab" ≠ x := by
        rintro rfl
        rw [nowhere] at mem
        cases mem
      simp [Fields.get?, ne]
  constructor
  · intro same
    have none : identifiers "return \x7b 'a\\b' \x7d " = [] := by
      rw [identifiers, tokenize_return]
      rfl
    have alike := same ⟨1, conditionDepth⟩ _ _ _ (agree none (by decide))
    rw [run, run, parseProgram_return] at alike
    cases alike
  · intro same
    have none : identifiers "\x7b 'a\\b' \x7d [ 'a\\b' ] " = [] := by
      rw [identifiers, tokenize_ownField]
      rfl
    have unnamed : contextName ∉ identifiers "\x7b 'a\\b' \x7d [ 'a\\b' ] " := by
      rw [none]
      exact List.not_mem_nil
    have alike := same _ _ _ (agree none (by decide)) unnamed
    rw [evaluateCondition, evaluateCondition, evaluateSource, evaluateSource,
      parseExpression_ownField] at alike
    cases alike

/-- With the quoted keys the names are enough: bindings and contexts that differ in another variable
have the same outcome. -/
theorem outcome_of_quotedKey :
    run ⟨1, conditionDepth⟩ "return \x7b 'a\\b' \x7d " [("ab", .bool true)] =
        run ⟨1, conditionDepth⟩ "return \x7b 'a\\b' \x7d " [("ab", .bool true), ("b", .null)] ∧
      evaluateCondition "\x7b 'a\\b' \x7d [ 'a\\b' ] " [("ab", .bool true)] =
        evaluateCondition "\x7b 'a\\b' \x7d [ 'a\\b' ] " [("ab", .bool true), ("b", .null)] := by
  have script : scriptNames conditionDepth "return \x7b 'a\\b' \x7d " = ["ab"] := by
    rw [scriptNames, identifiers, tokenize_return, parseProgram_return]
    rfl
  have condition : conditionNames "\x7b 'a\\b' \x7d [ 'a\\b' ] " = ["ab"] := by
    rw [conditionNames, identifiers, tokenize_ownField, parseExpression_ownField]
    rfl
  have agree : AgreeOn (· ∈ ["ab"]) [("ab", .bool true)] [("ab", .bool true), ("b", .null)] := by
    intro x mem
    rw [List.mem_singleton.mp mem]
    rfl
  have other : contextName ∉ ["ab"] := by decide
  exact ⟨(outcome_of_names ⟨1, conditionDepth⟩ _ _ _).1 (script.symm ▸ agree),
    (outcome_of_names ⟨1, conditionDepth⟩ _ _ _).2 (condition.symm ▸ agree)
      (condition.symm ▸ other)⟩

end Script

end Automation
