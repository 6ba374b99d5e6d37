import Automation.Expr.Eval

/-!
# The two modes of evaluation

Lenient evaluation relaxes strict evaluation in two ways only: a name without a value is null, and
a property of null is null. Wherever strict evaluation ends in neither of these two errors, lenient
evaluation ends in the same way (`eval_relaxes`). That holds of one step of an operation, and is
kept where an operation goes on with the value of an operand (`Relaxes.bind`).
-/

namespace Automation.Expr

/-! ## The errors that are relaxed -/

/-- Whether only strict evaluation has the error: a name has no value, or a property of null was
read. -/
def ExprError.isRelaxed : ExprError → Bool
  | undefined _ => true
  | mistyped (.readOfNull _) => true
  | _ => false

/-- An answer that is none of the errors that are relaxed. -/
def Plain {α : Type} (answer : Except ExprError α) : Prop :=
  ∀ err, answer = .error err → err.isRelaxed = false

section Plain

variable {α β : Type}

theorem Plain.ok (v : α) : Plain (.ok v) := by
  rintro err ⟨⟩

theorem Plain.error {err : ExprError} (h : err.isRelaxed = false) :
    Plain (.error err : Except ExprError α) := by
  rintro _ ⟨⟩
  exact h

theorem Plain.map {answer : Except ExprError α} (h : Plain answer) (f : α → β) :
    Plain (answer.map f) := by
  cases answer with
  | ok v => exact .ok _
  | error err => exact .error (h err rfl)

theorem Plain.bind {answer : Except ExprError α} (h : Plain answer) {f : α → Except ExprError β}
    (next : ∀ v, Plain (f v)) : Plain (answer >>= f) := by
  cases answer with
  | ok v => exact next v
  | error err => exact .error (h err rfl)

end Plain

/-! ## Operations -/

theorem plain_argument (function : String) (args : List Value) (i : Nat) :
    Plain (Builtin.argument function args i) := by
  unfold Builtin.argument
  split
  · exact .ok _
  · exact .error rfl

theorem plain_textArgument (function : String) (args : List Value) (i : Nat) :
    Plain (Builtin.textArgument function args i) := by
  unfold Builtin.textArgument
  split
  · exact .ok _
  · exact .error rfl
  · exact .error (plain_argument function args i _ ‹_›)

theorem plain_numberArgument (function : String) (args : List Value) :
    Plain (Builtin.numberArgument function args) := by
  unfold Builtin.numberArgument
  split
  · exact .ok _
  · exact .error rfl
  · exact .error (plain_argument function args 0 _ ‹_›)

theorem plain_arrayArgument (function : String) (args : List Value) :
    Plain (Builtin.arrayArgument function args) := by
  unfold Builtin.arrayArgument
  split
  · exact .ok _
  · exact .error rfl
  · exact .error (plain_argument function args 0 _ ‹_›)

theorem plain_objectArgument (function : String) (args : List Value) :
    Plain (Builtin.objectArgument function args) := by
  unfold Builtin.objectArgument
  split
  · exact .ok _
  · exact .error rfl
  · exact .error (plain_argument function args 0 _ ‹_›)

theorem plain_separatorArgument (function : String) (args : List Value) :
    Plain (Builtin.separatorArgument function args) := by
  unfold Builtin.separatorArgument
  split
  · exact .ok _
  · exact .error rfl
  · exact .ok _

theorem plain_numbersOf (function : String) (values : List Value) :
    Plain (Builtin.numbersOf function values) := by
  fun_induction Builtin.numbersOf function values with
  | case1 => exact .ok _
  | case2 _ _ ih => exact ih.map _
  | case3 => exact .error rfl

theorem plain_numberArguments (function : String) (args : List Value) :
    Plain (Builtin.numberArguments function args) := by
  unfold Builtin.numberArguments
  split <;> exact plain_numbersOf function _

theorem plain_containsValue (function : String) (haystack needle : Value) :
    Plain (Builtin.containsValue function haystack needle) := by
  unfold Builtin.containsValue
  split
  all_goals first | exact .ok _ | exact .error rfl

theorem plain_matchPattern [Regex.Library] (pattern text : String) :
    Plain (Builtin.matchPattern pattern text) := by
  unfold Builtin.matchPattern
  split
  · exact .ok _
  · exact .error rfl

/-- **No function fails with an error that is relaxed.** -/
theorem Builtin.plain_apply [Regex.Library] (function : String) (args : List Value) (f : Builtin) :
    Plain (f.apply function args) := by
  cases f with
  | len =>
    simp only [Builtin.apply]
    split
    · exact .error (plain_argument function args 0 _ ‹_›)
    · split
      · exact .ok _
      · exact .error rfl
  | contains =>
    exact (plain_argument function args 0).bind fun _ => (plain_argument function args 1).bind
      fun _ => (plain_containsValue function _ _).bind fun _ => .ok _
  | startsWith | endsWith =>
    exact (plain_textArgument function args 0).bind fun _ =>
      (plain_textArgument function args 1).bind fun _ => .ok _
  | lower | upper | trim => exact (plain_textArgument function args 0).map _
  | number | string | bool | isNull => exact (plain_argument function args 0).map _
  | keys | values => exact (plain_objectArgument function args).map _
  | isMatch =>
    exact (plain_argument function args 0).bind fun _ => (plain_textArgument function args 1).bind
      fun _ => (plain_matchPattern _ _).bind fun _ => .ok _
  | abs | round | floor | ceil => exact (plain_numberArgument function args).map _
  | min | max => exact (plain_numberArguments function args).map _
  | join =>
    exact (plain_arrayArgument function args).bind fun _ =>
      (plain_separatorArgument function args).bind fun _ => .ok _
  | split =>
    exact (plain_textArgument function args 0).bind fun _ =>
      (plain_textArgument function args 1).bind fun _ => .ok _
  | push => exact (plain_arrayArgument function args).map _

theorem Builtin.plain_call [Regex.Library] (name : String) (args : List Value) :
    Plain (Builtin.call name args) := by
  unfold Builtin.call
  split
  · exact Builtin.plain_apply name args _
  · exact .error rfl

theorem plain_arithmetic (op : BinaryOp) {f : Float → Float → Except ExprError Float}
    (h : ∀ a b, Plain (f a b)) (l r : Value) : Plain (arithmetic op f l r) := by
  unfold arithmetic
  split
  · exact (h _ _).map _
  · exact .error rfl

theorem plain_divided (f : Float → Float → Float) (a b : Float) : Plain (divided f a b) := by
  unfold divided
  split
  · exact .error rfl
  · exact .ok _

theorem plain_addValues (l r : Value) : Plain (addValues l r) := by
  unfold addValues
  split
  all_goals first | exact .ok _ | exact .error rfl

theorem plain_compareValues (op : BinaryOp) (l r : Value) : Plain (compareValues op l r) := by
  unfold compareValues
  split
  · dsimp only
    repeat' split
    all_goals first | exact .ok _ | exact .error rfl
  · exact .ok _
  · exact .error rfl

theorem plain_matchValues [Regex.Library] (l r : Value) : Plain (matchValues l r) := by
  unfold matchValues
  repeat' split
  · exact .ok _
  · exact (plain_matchPattern _ _).map _
  · exact .error rfl

/-- **No operator fails with an error that is relaxed.** -/
theorem plain_applyBinary [Regex.Library] (op : BinaryOp) (l r : Value) :
    Plain (applyBinary op l r) := by
  cases op with
  | add => exact plain_addValues l r
  | subtract | multiply => exact plain_arithmetic _ (fun _ _ => .ok _) l r
  | divide | modulo => exact plain_arithmetic _ (plain_divided _) l r
  | less | lessEqual | greater | greaterEqual => exact (plain_compareValues _ l r).map _
  | regexMatch => exact plain_matchValues l r
  | equal | notEqual | and | or => exact .ok _

theorem plain_applyUnary (op : UnaryOp) (v : Value) : Plain (applyUnary op v) := by
  cases op with
  | not => exact .ok _
  | negate =>
    simp only [applyUnary]
    split
    · exact .ok _
    · exact .error rfl

/-! ## Evaluation in order

What goes on with the value of an operand is bound to the answer of the operand. -/

section Equations

-- The equations of the evaluator are derived here once, not in each of the proofs below.
attribute [local simp] Term.eval Term.evalItems Term.evalFields

variable (mode : Mode) (vars : Fields)

theorem memberOf_eq (v : Value) (name : String) :
    memberOf mode v name = (checkReadable mode v name).bind fun _ =>
      match (if name = "length" then v.length? else none) with
      | some n => .ok (Value.ofNat n)
      | none => .ok (propertyOf v name) := by
  unfold memberOf
  cases checkReadable mode v name <;> rfl

theorem indexOf_eq (v key : Value) :
    indexOf mode v key = (checkReadable mode v key.display).bind fun _ =>
      match key with
      | .number n => .ok (elementAt v n)
      | .string name => .ok (propertyOf v name)
      | _ => .error (.mistyped (.index key.typeName)) := by
  unfold indexOf
  cases checkReadable mode v key.display <;> rfl

namespace Term

theorem eval_unary [Regex.Library] (op : UnaryOp) (e : Term) :
    (unary op e).eval mode vars = (e.eval mode vars).bind (applyUnary op) := by
  rw [eval]
  cases e.eval mode vars <;> rfl

theorem eval_binary [Regex.Library] (l : Term) (op : BinaryOp) (r : Term) :
    (binary l op r).eval mode vars = (l.eval mode vars).bind fun a =>
      match op with
      | .and => if a.truthy then r.eval mode vars else .ok a
      | .or => if a.truthy then .ok a else r.eval mode vars
      | op => (r.eval mode vars).bind (applyBinary op a) := by
  rw [eval]
  cases l.eval mode vars <;> cases op <;> first | rfl | (cases r.eval mode vars <;> rfl)

theorem eval_member [Regex.Library] (e : Term) (name : String) :
    (member e name).eval mode vars = (e.eval mode vars).bind (memberOf mode · name) := by
  rw [eval]
  cases e.eval mode vars <;> rfl

theorem eval_index [Regex.Library] (e i : Term) :
    (index e i).eval mode vars =
      (e.eval mode vars).bind fun v => (i.eval mode vars).bind (indexOf mode v) := by
  rw [eval]
  cases e.eval mode vars <;> first | rfl | (cases i.eval mode vars <;> rfl)

theorem eval_call [Regex.Library] (name : String) (args : List Term) :
    (call name args).eval mode vars =
      if Builtin.isBuiltin name then (evalItems mode vars args).bind (Builtin.call name)
      else .error (.unknownFunction name) := by
  rw [eval]
  cases evalItems mode vars args <;> rfl

theorem eval_array [Regex.Library] (items : List Term) :
    (array items).eval mode vars = (evalItems mode vars items).map Value.array := by
  rw [eval]
  cases evalItems mode vars items <;> rfl

theorem eval_object [Regex.Library] (fields : List (String × Term)) :
    (object fields).eval mode vars =
      (evalFields mode vars fields).map fun pairs => .object (Fields.ofPairs pairs) := by
  rw [eval]
  cases evalFields mode vars fields <;> rfl

theorem evalItems_cons [Regex.Library] (e : Term) (rest : List Term) :
    evalItems mode vars (e :: rest) =
      (e.eval mode vars).bind fun v => (evalItems mode vars rest).map (v :: ·) := by
  rw [evalItems]
  cases e.eval mode vars <;> first | rfl | (cases evalItems mode vars rest <;> rfl)

theorem evalFields_cons [Regex.Library] (k : String) (e : Term) (rest : List (String × Term)) :
    evalFields mode vars ((k, e) :: rest) =
      (e.eval mode vars).bind fun v => (evalFields mode vars rest).map ((k, v) :: ·) := by
  rw [evalFields]
  cases e.eval mode vars <;> first | rfl | (cases evalFields mode vars rest <;> rfl)

end Term

end Equations

/-! ## Relaxing -/

/-- Whether a lenient answer is the strict one wherever that is none of the errors that are relaxed,
and is itself never one of them. -/
structure Relaxes {α : Type} (strict lenient : Except ExprError α) : Prop where
  agrees : Plain strict → lenient = strict
  plain : Plain lenient

section Relaxes

variable {α β : Type}

/-- What the modes do not differ in. -/
theorem Relaxes.refl {answer : Except ExprError α} (h : Plain answer) : Relaxes answer answer :=
  ⟨fun _ => rfl, h⟩

/-- An error of strict mode alone. -/
theorem Relaxes.error {err : ExprError} (relaxed : err.isRelaxed = true)
    {lenient : Except ExprError α} (h : Plain lenient) : Relaxes (.error err) lenient := by
  refine ⟨fun plain => ?_, h⟩
  rw [plain err rfl] at relaxed
  cases relaxed

/-- What goes on with the value of an operand. -/
theorem Relaxes.bind {strict lenient : Except ExprError α} (h : Relaxes strict lenient)
    {f g : α → Except ExprError β} (next : ∀ v, Relaxes (f v) (g v)) :
    Relaxes (strict.bind f) (lenient.bind g) := by
  cases strict with
  | ok v =>
    cases h.agrees (.ok v)
    exact next v
  | error err =>
    cases lenient with
    | ok v =>
      refine .error ?_ (next v).plain
      cases relaxed : err.isRelaxed with
      | true => rfl
      | false => cases h.agrees (.error relaxed)
    | error err' =>
      refine ⟨fun plain => ?_, .error (h.plain err' rfl)⟩
      cases h.agrees (.error (plain err rfl))
      rfl

theorem Relaxes.map {strict lenient : Except ExprError α} (h : Relaxes strict lenient)
    (f : α → β) : Relaxes (strict.map f) (lenient.map f) := by
  have bound (answer : Except ExprError α) : answer.map f = answer.bind fun v => .ok (f v) := by
    cases answer <;> rfl
  rw [bound, bound]
  exact h.bind fun v => .refl (.ok (f v))

end Relaxes

theorem checkReadable_relaxes (v : Value) (property : String) :
    Relaxes (checkReadable .strict v property) (checkReadable .lenient v property) := by
  cases v with
  | null => exact .error rfl (.ok _)
  | _ => exact .refl (.ok _)

theorem memberOf_relaxes (v : Value) (name : String) :
    Relaxes (memberOf .strict v name) (memberOf .lenient v name) := by
  rw [memberOf_eq, memberOf_eq]
  refine (checkReadable_relaxes v name).bind fun _ => .refl ?_
  split <;> exact .ok _

theorem indexOf_relaxes (v key : Value) :
    Relaxes (indexOf .strict v key) (indexOf .lenient v key) := by
  rw [indexOf_eq, indexOf_eq]
  refine (checkReadable_relaxes v _).bind fun _ => .refl ?_
  split
  · exact .ok _
  · exact .ok _
  · exact .error rfl

theorem lookUp_relaxes (vars : Fields) (name : String) :
    Relaxes (lookUp .strict vars name) (lookUp .lenient vars name) := by
  unfold lookUp
  cases Fields.get? name vars with
  | some v => exact .refl (.ok v)
  | none => exact .error rfl (.ok _)

mutual

/-- Lenient evaluation of an expression relaxes strict evaluation. -/
theorem Term.relaxes [Regex.Library] (vars : Fields) :
    (e : Term) → Relaxes (e.eval .strict vars) (e.eval .lenient vars)
  | .literal v => by
    rw [Term.eval, Term.eval]
    exact .refl (.ok v)
  | .ident name => by
    rw [Term.eval, Term.eval]
    exact lookUp_relaxes vars name
  | .unary op e => by
    rw [Term.eval_unary, Term.eval_unary]
    exact (e.relaxes vars).bind fun v => .refl (plain_applyUnary op v)
  | .binary l op r => by
    rw [Term.eval_binary, Term.eval_binary]
    refine (l.relaxes vars).bind fun a => ?_
    -- The operand that decides is the same, so both modes skip the other one or neither does.
    split
    · split
      · exact r.relaxes vars
      · exact .refl (.ok a)
    · split
      · exact .refl (.ok a)
      · exact r.relaxes vars
    · exact (r.relaxes vars).bind fun b => .refl (plain_applyBinary _ a b)
  | .member e name => by
    rw [Term.eval_member, Term.eval_member]
    exact (e.relaxes vars).bind fun v => memberOf_relaxes v name
  | .index e i => by
    rw [Term.eval_index, Term.eval_index]
    exact (e.relaxes vars).bind fun v => (i.relaxes vars).bind fun key => indexOf_relaxes v key
  | .call name args => by
    rw [Term.eval_call, Term.eval_call]
    split
    · exact (Term.relaxes_items vars args).bind fun values => .refl (Builtin.plain_call name values)
    · exact .refl (.error rfl)
  | .array items => by
    rw [Term.eval_array, Term.eval_array]
    exact (Term.relaxes_items vars items).map _
  | .object fields => by
    rw [Term.eval_object, Term.eval_object]
    exact (Term.relaxes_fields vars fields).map _

/-- Of items, from left to right. -/
theorem Term.relaxes_items [Regex.Library] (vars : Fields) :
    (es : List Term) → Relaxes (Term.evalItems .strict vars es) (Term.evalItems .lenient vars es)
  | [] => by
    rw [Term.evalItems, Term.evalItems]
    exact .refl (.ok [])
  | e :: rest => by
    rw [Term.evalItems_cons, Term.evalItems_cons]
    exact (e.relaxes vars).bind fun v => (Term.relaxes_items vars rest).map _

/-- Of fields, from left to right. -/
theorem Term.relaxes_fields [Regex.Library] (vars : Fields) :
    (fields : List (String × Term)) →
      Relaxes (Term.evalFields .strict vars fields) (Term.evalFields .lenient vars fields)
  | [] => by
    rw [Term.evalFields, Term.evalFields]
    exact .refl (.ok [])
  | (k, e) :: rest => by
    rw [Term.evalFields_cons, Term.evalFields_cons]
    exact (e.relaxes vars).bind fun v => (Term.relaxes_fields vars rest).map _

end

/-- **Lenient evaluation differs from strict evaluation only where that has an error that is
relaxed**, and never has one itself. -/
theorem eval_relaxes [Regex.Library] (e : Term) (vars : Fields) :
    (∀ v, e.eval .strict vars = .ok v → e.eval .lenient vars = .ok v) ∧
      (∀ err, e.eval .strict vars = .error err → err.isRelaxed = false →
        e.eval .lenient vars = .error err) ∧
      ∀ err, e.eval .lenient vars = .error err → err.isRelaxed = false := by
  obtain ⟨agrees, plain⟩ := e.relaxes vars
  refine ⟨fun v strict => ?_, fun err strict other => ?_, plain⟩
  · rw [strict] at agrees
    exact agrees (.ok v)
  · rw [strict] at agrees
    exact agrees (.error other)

end Automation.Expr
