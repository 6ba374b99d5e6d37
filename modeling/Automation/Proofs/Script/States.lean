import Automation.Proofs.Expr.Script
import Automation.Proofs.Script.Budget
import Automation.Proofs.Script.Places

/-!
# The states of scripts are in order

A script that runs on variables in order (`Value.Ordered`) leaves them in order, after every
statement and at its end (`PerformsAll.ordered`): what it evaluates is ordered (`eval_ordered`), and
an assignment stores it where the order of keys puts it (`assignPath_ordered`). So its result is
ordered too (`run_ordered`).
-/

namespace Automation

/-- Whatever is answered, unless there is an error, has a property. -/
def Gives (P : α → Prop) (x : Except ε α) : Prop :=
  ∀ a, x = .ok a → P a

namespace Gives

variable {P : α → Prop} {Q : β → Prop} {x : Except ε α}

theorem ok {a : α} (h : P a) : Gives P (.ok a : Except ε α) := by
  intro b same
  cases same
  exact h

theorem error (e : ε) : Gives P (.error e) := fun _ same => by cases same

theorem of_forall (h : ∀ a, P a) (x : Except ε α) : Gives P x := fun a _ => h a

theorem mono (h : Gives P x) {P' : α → Prop} (imp : ∀ a, P a → P' a) : Gives P' x :=
  fun a same => imp a (h a same)

theorem map (h : Gives P x) {f : α → β} (hf : ∀ a, P a → Q (f a)) : Gives Q (x.map f) := by
  cases x with
  | error e => exact error e
  | ok a => exact ok (hf a (h a rfl))

theorem bind (h : Gives P x) {f : α → Except ε β} (hf : ∀ a, P a → Gives Q (f a)) :
    Gives Q (x >>= f) := by
  cases x with
  | error e => exact error e
  | ok a => exact hf a (h a rfl)

/-- What comes of anything. -/
theorem bind_of_forall {f : α → Except ε β} (hf : ∀ a, Gives Q (f a)) : Gives Q (x >>= f) :=
  bind (P := fun _ => True) (of_forall (fun _ => trivial) x) fun a _ => hf a

theorem map_of_forall {f : α → β} (hf : ∀ a, Q (f a)) : Gives Q (x.map f) :=
  map (P := fun _ => True) (of_forall (fun _ => trivial) x) fun a _ => hf a

end Gives

namespace Expr

open Value (ordered_ofNat ordered_ofFloat)

/-! ## Functions -/

namespace Builtin

variable {function : String} {args : List Value} (h : ∀ v ∈ args, v.Ordered)
include h

theorem argument_ordered (function : String) (i : Nat) :
    Gives Value.Ordered (argument function args i) := by
  unfold argument
  split
  next v there => exact .ok (h v (List.mem_of_getElem? there))
  next => exact .error _

theorem arrayArgument_ordered :
    Gives (fun items => ∀ v ∈ items, v.Ordered) (arrayArgument function args) := by
  have first := argument_ordered h function 0
  unfold arrayArgument
  split
  next items there =>
    cases first _ there with
    | array h => exact .ok h
  next => exact .error _
  next => exact .error _

theorem objectArgument_ordered :
    Gives (fun fields => (Value.object fields).Ordered) (objectArgument function args) := by
  have first := argument_ordered h function 0
  unfold objectArgument
  split
  next fields there => exact .ok (first _ there)
  next => exact .error _
  next => exact .error _

omit h in
theorem choose_ordered (pick : Float → Float → Float) (numbers : List Float) :
    (choose pick numbers).Ordered := by
  cases numbers with
  | nil => exact .null
  | cons x rest => exact ordered_ofFloat _

omit h in
theorem toNumber_ordered (v : Value) : (toNumber v).Ordered := by
  unfold toNumber
  split
  · exact ordered_ofFloat _
  · split
    · exact ordered_ofFloat _
    · exact .null
  · exact ordered_ofNat _
  · exact ordered_ofNat _
  · exact .null

/-- Functions of ordered values give ordered values. -/
theorem apply_ordered [Regex.Library] (f : Builtin) :
    Gives Value.Ordered (apply function args f) := by
  cases f with
  | len =>
    rw [apply]
    split
    · exact .error _
    · split
      · exact .ok (ordered_ofNat _)
      · exact .error _
  | contains =>
    exact .bind_of_forall fun _ => .bind_of_forall fun _ => .bind_of_forall fun _ => .ok (.bool _)
  | startsWith | endsWith =>
    exact .bind_of_forall fun _ => .bind_of_forall fun _ => .ok (.bool _)
  | lower | upper | trim => exact .map_of_forall fun _ => .string _
  | number => exact .map_of_forall toNumber_ordered
  | string => exact .map_of_forall fun _ => .string _
  | bool => exact .map_of_forall fun _ => .bool _
  | isNull =>
    refine .map_of_forall fun v => ?_
    split <;> exact .bool _
  | keys =>
    refine .map_of_forall fun fields => .array fun v there => ?_
    obtain ⟨field, _, rfl⟩ := List.mem_map.mp there
    exact .string _
  | values =>
    refine .map (objectArgument_ordered h) fun fields ordered => .array fun v there => ?_
    obtain ⟨field, stored, rfl⟩ := List.mem_map.mp there
    cases ordered with
    | object _ all => exact all field stored
  | isMatch =>
    exact .bind_of_forall fun _ => .bind_of_forall fun _ => .bind_of_forall fun _ => .ok (.bool _)
  | abs | round | floor | ceil => exact .map_of_forall fun _ => ordered_ofFloat _
  | min | max => exact .map_of_forall (choose_ordered _)
  | join => exact .bind_of_forall fun _ => .bind_of_forall fun _ => .ok (.string _)
  | split =>
    refine .bind_of_forall fun s => .bind_of_forall fun separator => .ok (.array fun v there => ?_)
    obtain ⟨part, _, rfl⟩ := List.mem_map.mp there
    exact .string part
  | push =>
    exact .map (arrayArgument_ordered h) fun items ordered =>
      .append ordered fun v there => h v (List.mem_of_mem_drop there)

theorem call_ordered [Regex.Library] (name : String) : Gives Value.Ordered (call name args) := by
  unfold call
  split
  · exact apply_ordered h _
  · exact .error _

end Builtin

/-! ## Operators and access -/

theorem addValues_ordered {l r : Value} (hl : l.Ordered) (hr : r.Ordered) :
    Gives Value.Ordered (addValues l r) := by
  unfold addValues
  split
  · exact .ok (ordered_ofFloat _)
  · exact .ok (.string _)
  · exact .ok (.string _)
  · cases hl with
    | array hl =>
      cases hr with
      | array hr => exact .ok (.append hl hr)
  · exact .error _

theorem arithmetic_ordered (op : BinaryOp) (f : Float → Float → Except ExprError Float)
    (l r : Value) : Gives Value.Ordered (arithmetic op f l r) := by
  unfold arithmetic
  split
  · exact .map_of_forall ordered_ofFloat
  · exact .error _

theorem applyBinary_ordered [Regex.Library] (op : BinaryOp) {l r : Value} (hl : l.Ordered)
    (hr : r.Ordered) :
    Gives Value.Ordered (applyBinary op l r) := by
  cases op with
  | add => exact addValues_ordered hl hr
  | subtract | multiply | divide | modulo =>
    rw [applyBinary]
    exact arithmetic_ordered _ _ l r
  | equal | notEqual => exact .ok (.bool _)
  | less | lessEqual | greater | greaterEqual => exact .map_of_forall fun _ => .bool _
  | regexMatch =>
    show Gives Value.Ordered (matchValues l r)
    unfold matchValues
    split
    · split
      · exact .ok (.bool _)
      · exact .map_of_forall .bool
    · exact .error _
  | and | or =>
    refine .ok ?_
    split <;> assumption

theorem applyUnary_ordered (op : UnaryOp) (v : Value) : Gives Value.Ordered (applyUnary op v) := by
  unfold applyUnary
  split
  · exact .ok (.bool _)
  · split
    · exact .ok (ordered_ofFloat _)
    · exact .error _

theorem propertyOf_ordered {v : Value} (h : v.Ordered) (name : String) :
    (propertyOf v name).Ordered := by
  unfold propertyOf
  split
  · exact h.fieldD name
  · exact .null

theorem elementAt_ordered {v : Value} (h : v.Ordered) (n : Number) : (elementAt v n).Ordered := by
  unfold elementAt
  split
  · exact .null
  next i _ =>
    split
    · exact h.itemD i
    · split
      · exact .string _
      · exact .null
    · exact .null

theorem memberOf_ordered (mode : Mode) {v : Value} (h : v.Ordered) (name : String) :
    Gives Value.Ordered (memberOf mode v name) := by
  unfold memberOf
  split
  · exact .error _
  · split
    · exact .ok (ordered_ofNat _)
    · exact .ok (propertyOf_ordered h name)

theorem indexOf_ordered (mode : Mode) {v : Value} (h : v.Ordered) (key : Value) :
    Gives Value.Ordered (indexOf mode v key) := by
  unfold indexOf
  split
  · exact .error _
  · split
    · exact .ok (elementAt_ordered h _)
    · exact .ok (propertyOf_ordered h _)
    · exact .error _

theorem lookUp_ordered (mode : Mode) {vars : Fields} (h : (Value.object vars).Ordered)
    (name : String) : Gives Value.Ordered (lookUp mode vars name) := by
  unfold lookUp
  split
  next there => exact .ok (h.field there)
  next => exact .ok .null
  next => exact .error _

/-! ## Expressions -/

section

variable {mode : Mode} {vars : Fields}

theorem evalItems_ordered [Regex.Library] {items : List Term}
    (h : ∀ e ∈ items, Gives Value.Ordered (e.eval mode vars)) :
    Gives (fun values => ∀ v ∈ values, v.Ordered) (Term.evalItems mode vars items) := by
  induction items with
  | nil => exact .ok (List.forall_mem_nil _)
  | cons e rest ih =>
    have others := ih fun e there => h e (List.mem_cons_of_mem _ there)
    rw [Term.evalItems]
    split
    · exact .error _
    next v first =>
      split
      · exact .error _
      next values evaluated =>
        exact .ok (List.forall_mem_cons.mpr
          ⟨h e List.mem_cons_self v first, others values evaluated⟩)

theorem evalFields_ordered [Regex.Library] {fields : List (String × Term)}
    (h : ∀ field ∈ fields, Gives Value.Ordered (field.2.eval mode vars)) :
    Gives (fun pairs => ∀ pair ∈ pairs, pair.2.Ordered) (Term.evalFields mode vars fields) := by
  induction fields with
  | nil => exact .ok (List.forall_mem_nil _)
  | cons field rest ih =>
    obtain ⟨k, e⟩ := field
    have others := ih fun field there => h field (List.mem_cons_of_mem _ there)
    rw [Term.evalFields]
    split
    · exact .error _
    next v first =>
      split
      · exact .error _
      next pairs evaluated =>
        exact .ok (List.forall_mem_cons.mpr
          ⟨h (k, e) List.mem_cons_self v first, others pairs evaluated⟩)

/-- **What an expression is worth is ordered**, if its variables are. -/
theorem eval_ordered [Regex.Library] {e : Term} (sayable : e.Sayable)
    (h : (Value.object vars).Ordered) :
    Gives Value.Ordered (e.eval mode vars) := by
  induction sayable with
  | number n => exact .ok (ordered_ofFloat _)
  | string s => exact .ok (.string s)
  | bool b => exact .ok (.bool b)
  | null => exact .ok .null
  | ident _ => exact lookUp_ordered mode h _
  | unary _ _ =>
    rw [Term.eval]
    split
    · exact .error _
    · exact applyUnary_ordered _ _
  | @binary l op r _ _ left right =>
    rw [Term.eval]
    split
    · exact .error _
    next a evaluated =>
      have first := left a evaluated
      split
      · split
        · exact right
        · exact .ok first
      · split
        · exact .ok first
        · exact right
      · split
        · exact .error _
        next b evaluated => exact applyBinary_ordered op first (right b evaluated)
  | member _ _ ih =>
    rw [Term.eval]
    split
    · exact .error _
    next v evaluated => exact memberOf_ordered mode (ih v evaluated) _
  | index _ _ ih _ =>
    rw [Term.eval]
    split
    · exact .error _
    next v evaluated =>
      split
      · exact .error _
      · exact indexOf_ordered mode (ih v evaluated) _
  | call _ _ ih =>
    rw [Term.eval]
    split
    · split
      · exact .error _
      next values evaluated =>
        exact Builtin.call_ordered (evalItems_ordered ih values evaluated) _
    · exact .error _
  | array _ ih =>
    rw [Term.eval]
    split
    · exact .error _
    next values evaluated => exact .ok (.array (evalItems_ordered ih values evaluated))
  | @object fields _ ih =>
    have all (field : String × Term) (there : field ∈ fields) :
        Gives Value.Ordered (field.2.eval mode vars) := by
      -- A field that is only a name is short for the variable.
      by_cases short : field.2 = .ident field.1
      · rw [short]
        exact lookUp_ordered mode h _
      · exact ih field there short
    rw [Term.eval]
    split
    · exact .error _
    next pairs evaluated => exact .ok (Value.ordered_ofPairs (evalFields_ordered all pairs evaluated))

end

end Expr

namespace Script

open Automation.Expr

/-! ## Assignments -/

/-- A value that is stored below a slot leaves it in order. -/
theorem storeAt_ordered (keys : List Value) {value slot : Value} (hv : value.Ordered)
    (h : slot.Ordered) : (storeAt keys value slot).slot.Ordered := by
  induction keys generalizing slot with
  | nil => exact hv
  | cons key keys ih =>
    have absent := ih .null
    cases h with
    | null => exact .object (List.pairwise_singleton ..) (by simpa [storeAt] using absent)
    | object ordered all =>
      have object : (Value.object _).Ordered := .object ordered all
      exact object.insert _ (ih (object.fieldD _))
    | @array items all =>
      have array : (Value.array items).Ordered := .array all
      unfold storeAt
      dsimp only
      split
      · split
        next i _ =>
          split
          · exact .set all i (ih (array.itemD i))
          · split
            · exact .append all fun v there => List.mem_singleton.mp there ▸ absent
            · exact array
        next => exact array
      · exact array
    | bool b => exact .bool b
    | number n => exact .number n
    | string s => exact .string s

/-- An assignment leaves the variables in order. -/
theorem assignPath_ordered {vars : Fields} (h : (Value.object vars).Ordered) (name : String)
    (keys : List Value) {value : Value} (hv : value.Ordered) :
    (Value.object (assignPath vars name keys value).2).Ordered := by
  rcases assignPath_cases vars name keys value with ⟨_, assigned⟩ | ⟨slot, there, assigned⟩
  · rw [assigned]
    exact h
  · rw [assigned]
    exact h.insert name (storeAt_ordered keys hv (h.field there))

/-! ## Statements -/

/-- The items that a loop visits are ordered. -/
theorem itemsOf_ordered {v : Value} (h : v.Ordered) :
    Gives (fun items => ∀ item ∈ items, item.Ordered) (itemsOf v) := by
  cases h with
  | array all => exact .ok all
  | object _ _ =>
    refine .ok fun item there => ?_
    obtain ⟨field, _, rfl⟩ := List.mem_map.mp there
    exact .string _
  | string s =>
    refine .ok fun item there => ?_
    obtain ⟨c, _, rfl⟩ := List.mem_map.mp there
    exact .string _
  | null | bool | number => exact .error _

/-- The variables that are left are in order, and so is the result, if there is one. -/
structure InOrder (ending : Ending) (vars : Fields) : Prop where
  vars : (Value.object vars).Ordered
  result : ∀ v, ending = .ok (.result v) → v.Ordered

theorem InOrder.next {vars : Fields} (h : (Value.object vars).Ordered) :
    InOrder (.ok .next) vars :=
  ⟨h, fun _ same => by cases same⟩

theorem InOrder.error {vars : Fields} (e : ExprError) (h : (Value.object vars).Ordered) :
    InOrder (.error e) vars :=
  ⟨h, fun _ same => by cases same⟩

theorem InOrder.result_of {vars : Fields} {v : Value} (h : (Value.object vars).Ordered)
    (hv : v.Ordered) : InOrder (.ok (.result v)) vars := by
  refine ⟨h, fun w same => ?_⟩
  cases same
  exact hv

/-- **A script leaves its variables in order.** By induction on the rules, with the same for
statements, conditional statements and loops. -/
theorem PerformsAll.ordered [Regex.Library] {ss : List Stmt} {vars vars' : Fields} {n : Nat}
    {ending : Ending} (performs : PerformsAll ss vars n ending vars')
    (made : ∀ s ∈ ss, s.Made Term.Sayable) (h : (Value.object vars).Ordered) :
    InOrder ending vars' := by
  induction performs using PerformsAll.rec
    (motive_1 := fun s vars _ ending vars' _ =>
      s.Made Term.Sayable → (Value.object vars).Ordered → InOrder ending vars')
    (motive_3 := fun branches otherwise vars _ ending vars' _ =>
      (∀ b ∈ branches, ∀ s ∈ b.2, s.Made Term.Sayable) →
      (∀ ss, otherwise = some ss → ∀ s ∈ ss, s.Made Term.Sayable) →
      (Value.object vars).Ordered → InOrder ending vars')
    (motive_4 := fun _ body items vars _ ending vars' _ =>
      (∀ s ∈ body, s.Made Term.Sayable) → (∀ item ∈ items, item.Ordered) →
      (Value.object vars).Ordered → InOrder ending vars') with
  | fault _ _ _ h => exact .error _ h
  | declare evaluated made h =>
    cases made with
    | declare _ value => exact .next (h.insert _ (eval_ordered value h _ evaluated))
  | keyFault _ _ _ h => exact .error _ h
  | @assign name _ _ _ _ keys answer _ evaluated _ stored made h =>
    cases made with
    | assign _ _ value =>
      have left := assignPath_ordered h name keys (eval_ordered value h _ evaluated)
      rw [stored] at left
      cases answer with
      | error e => exact .error e left
      | ok done => exact .next left
  | branch _ ih made h =>
    cases made with
    | branch _ _ bodies otherwise => exact ih bodies otherwise h
  | itemFault _ _ _ h => exact .error _ h
  | loop evaluated visits _ ih made h =>
    cases made with
    | loop _ items body =>
      exact ih body (itemsOf_ordered (eval_ordered items h _ evaluated) _ visits) h
  | retNull _ h => exact .result_of h .null
  | ret evaluated made h =>
    cases made with
    | ret value => exact .result_of h (eval_ordered (value _ rfl) h _ evaluated)
  | throw _ _ h => exact .error _ h
  | expr _ _ h => exact .next h
  | nil => exact .next h
  | next _ _ first further =>
    obtain ⟨here, others⟩ := List.forall_mem_cons.mp made
    exact further others (first here h).vars
  | stop _ _ first => exact first (made _ List.mem_cons_self) h
  | conditionFault _ _ _ h => exact .error _ h
  | here _ _ _ block bodies _ h => exact block (bodies _ List.mem_cons_self) h
  | later _ _ _ further bodies otherwise h =>
    exact further (fun b there => bodies b (List.mem_cons_of_mem _ there)) otherwise h
  | otherwise _ block _ otherwise h => exact block (otherwise _ rfl) h
  | nothing _ _ h => exact .next h
  | noRound _ _ h => exact .next h
  | round _ _ block further made items h =>
    obtain ⟨item, others⟩ := List.forall_mem_cons.mp items
    exact further made others (block made (h.insert _ item)).vars
  | lastRound _ _ block made items h => exact block made (h.insert _ (items _ List.mem_cons_self))

/-! ## Scripts that are read -/

/-- What can be said is so in all its parts. -/
theorem inherited_sayable : Inherited Term.Sayable where
  sayable h := h
  null := .null
  member h := by
    cases h with
    | member h _ => exact h
  index h := by
    cases h with
    | index h key => exact ⟨h, key⟩

/-- **The result of a script is ordered**, if its bindings are, within all limits. -/
theorem run_ordered [Regex.Library] (limits : Limits) (source : String) {bindings : Fields}
    (h : (Value.object bindings).Ordered) : Gives Value.Ordered (run limits source bindings) := by
  unfold run
  split
  · exact .error _
  next program read =>
    have made := parseProgram_made inherited_sayable (fun _ _ _ built => built.sayable_of) read
    obtain ⟨n, ending, ⟨vars, performs, free⟩, exhausted, enough⟩ :=
      exists_threshold program bindings
    by_cases within : n ≤ limits.steps
    · rw [enough _ within, free]
      have ended : Gives (fun flow => ending = .ok flow) ending := fun _ same => same
      refine ended.map fun flow same => ?_
      cases flow with
      | next => exact .null
      | result v => exact (performs.ordered made h).result v same
    · rw [exhausted _ (Nat.lt_of_not_le within)]
      exact .error _

end Script

end Automation
