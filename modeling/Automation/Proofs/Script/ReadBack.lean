import Automation.Proofs.Script.Places
import Automation.Regex.Reader

/-!
# Reading what was assigned

What a script assigns to is an expression too (`assignTarget?`), and `ReadsBack` says that it has the
assigned value afterwards. Reading and writing agree as long as every segment of the path names what
is below its slot in the same way for both (`Names`): an object answers the count of its fields for
`length`, and it can be written under the text of any key but is read by texts only.
-/

namespace Automation.Script

open Automation.Expr

/-! ## Paths as expressions -/

/-- The expression of one more segment. -/
def access (e : Term) : PathSegment → Term
  | .field name => .member e name
  | .index i => .index e i

/-- What is assigned to is the variable with the segments of the path behind it. -/
theorem eq_foldl_access {e : Term} {name : String} {path : List PathSegment}
    (target : assignTarget? e = some (name, path)) : e = path.foldl access (.ident name) := by
  induction e using assignTarget?.induct generalizing name path with
  | case1 x =>
    cases target
    rfl
  | case2 e property ih =>
    rw [assignTarget?, Option.map_eq_some_iff] at target
    obtain ⟨⟨x, front⟩, inner, same⟩ := target
    cases same
    rw [List.foldl_append, ← ih inner]
    rfl
  | case3 e i ih =>
    rw [assignTarget?, Option.map_eq_some_iff] at target
    obtain ⟨⟨x, front⟩, inner, same⟩ := target
    cases same
    rw [List.foldl_append, ← ih inner]
    rfl
  | case4 e _ _ _ =>
    rw [assignTarget?] at target <;> first | assumption | cases target

/-- Whether a key is that of a segment. -/
def KeyOf [Regex.Library] (vars : Fields) : PathSegment → Value → Prop
  | .field name, key => key = .string name
  | .index e, key => e.eval .strict vars = .ok key

theorem keys_of_pathKeys [Regex.Library] {vars : Fields} {path : List PathSegment}
    {keys : List Value} (known : pathKeys vars path = .ok keys) :
    List.Forall₂ (KeyOf vars) path keys := by
  induction path generalizing keys with
  | nil =>
    cases known
    exact .nil
  | cons segment path ih =>
    cases segment with
    | field name =>
      rw [pathKeys] at known
      split at known
      · cases known
      next further =>
        cases known
        exact .cons rfl (ih further)
    | index e =>
      rw [pathKeys] at known
      split at known
      · cases known
      next value =>
        split at known
        · cases known
        next further =>
          cases known
          exact .cons value (ih further)

/-! ## Segments that read what they write -/

/-- What a key leads to below a slot; null where there is nothing yet. -/
def under (key slot : Value) : Value :=
  match slot, key with
  | .object fields, key => (Fields.get? key.display fields).getD .null
  | .array items, .number n => (n.toNat?.bind fun i => items[i]?).getD .null
  | _, _ => .null

theorem Puts.below_eq {key inner slot below result : Value} (h : Puts key inner slot below result) :
    below = under key slot := by
  cases h with
  | null => rfl
  | field fields => rfl
  | @item items i v position there =>
    cases key with
    | number n =>
      have position : n.toNat? = some i := position
      simp [under, position, there]
    | _ => cases position
  | @push items position =>
    cases key with
    | number n =>
      have position : n.toNat? = some items.length := position
      simp [under, position]
    | _ => cases position

/-- Whether a segment with its key names what is below a slot: a field by any name but `length`,
by an index that is a text, or an item by a number. -/
def Names : PathSegment → Value → Value → Prop
  | .field name, _, _ => name ≠ "length"
  | .index _, .string _, _ => True
  | .index _, .number _, .array _ => True
  | _, _, _ => False

/-- Whether all segments of a path name what is below their slots. -/
def NamesAll : List PathSegment → List Value → Value → Prop
  | segment :: path, key :: keys, slot =>
    Names segment key slot ∧ NamesAll path keys (under key slot)
  | _, _, _ => True

section

variable [Regex.Library]

/-- Such a segment is read where it was written. -/
theorem Puts.eval_access {vars : Fields} {e : Term} {segment : PathSegment}
    {key inner slot below result : Value} (puts : Puts key inner slot below result)
    (of : KeyOf vars segment key) (names : Names segment key slot)
    (read : e.eval .strict vars = .ok result) :
    (access e segment).eval .strict vars = .ok inner := by
  cases segment with
  | field name =>
    have other : name ≠ "length" := names
    have same : key = .string name := of
    subst same
    rw [access, Term.eval, read]
    cases puts with
    | null => simp [memberOf, checkReadable, other, propertyOf, Fields.get?, Value.display]
    | field fields => simp [memberOf, checkReadable, other, propertyOf, Value.display]
    | item position there => cases position
    | push position => cases position
  | index i =>
    have value : i.eval .strict vars = .ok key := of
    rw [access, Term.eval, read, value]
    cases puts with
    | null =>
      cases key with
      | string name => simp [indexOf, checkReadable, propertyOf, Fields.get?, Value.display]
      | _ => cases names
    | field fields =>
      cases key with
      | string name => simp [indexOf, checkReadable, propertyOf, Value.display]
      | _ => cases names
    | @item items i v position there =>
      cases key with
      | number n =>
        have position : n.toNat? = some i := position
        have within : i < items.length := (List.getElem?_eq_some_iff.mp there).1
        simp [indexOf, checkReadable, elementAt, position, List.getElem?_set_self within]
      | _ => cases position
    | @push items position =>
      cases key with
      | number n =>
        have position : n.toNat? = some items.length := position
        simp [indexOf, checkReadable, elementAt, position]
      | _ => cases position

/-- **A path is read where it was written.** By induction on the path: its first segment reads what
the rest has stored below it. -/
theorem eval_stored {vars : Fields} {path : List PathSegment} {keys : List Value}
    (known : List.Forall₂ (KeyOf vars) path keys) {e : Term} {value slot : Value}
    (stored : (storeAt keys value slot).fault = none) (names : NamesAll path keys slot)
    (read : e.eval .strict vars = .ok (storeAt keys value slot).slot) :
    (path.foldl access e).eval .strict vars = .ok value := by
  induction known generalizing e slot with
  | nil => exact read
  | @cons segment key path keys of _ ih =>
    obtain ⟨below, further, puts⟩ := puts_of_stored stored
    obtain ⟨first, rest⟩ := names
    rw [← puts.below_eq] at rest
    exact ih further rest (puts.eval_access of first read)

/-! ## Assignments -/

/-- Whether an expression that a value is assigned to has that value afterwards, unless the
assignment fails or changes a key of the path. -/
def ReadsBack (vars : Fields) (e : Term) (value : Value) : Prop :=
  ∀ name path keys vars', assignTarget? e = some (name, path) → pathKeys vars path = .ok keys →
    assignPath vars name keys value = (.ok (), vars') → pathKeys vars' path = .ok keys →
    e.eval .strict vars' = .ok value

/-- Whether all segments of what is assigned to name what is below their slots. -/
def Named (vars : Fields) (e : Term) : Prop :=
  ∀ name path keys slot, assignTarget? e = some (name, path) → pathKeys vars path = .ok keys →
    Fields.get? name vars = some slot → NamesAll path keys slot

/-- **What was assigned is read back**, whatever the assignment created on its way. -/
theorem reads_back {vars : Fields} {e : Term} (named : Named vars e) (value : Value) :
    ReadsBack vars e value := by
  intro name path keys vars' target before assigned after
  rcases assignPath_cases vars name keys value with ⟨_, failed⟩ | ⟨slot, there, result⟩
  · rw [failed] at assigned
    cases assigned
  · rw [result] at assigned
    cases fault : (storeAt keys value slot).fault with
    | some fault =>
      rw [fault] at assigned
      cases assigned
    | none =>
      rw [fault] at assigned
      cases assigned
      rw [eq_foldl_access target]
      refine eval_stored (keys_of_pathKeys after) fault (named _ _ _ _ target before there) ?_
      simp [Term.eval, lookUp]

end

/-- A field of an object behind the end of an array, neither of which is there before. -/
theorem reads_back_created :
    let e : Term := .member (.index (.member (.ident "x") "rows") (.literal (.ofNat 0))) "id"
    let vars : Fields := [("x", .object [("rows", .array [])])]
    assignPath vars "x" [.string "rows", .ofNat 0, .string "id"] (.bool true) =
        (.ok (), [("x", .object [("rows", .array [.object [("id", .bool true)]])])]) ∧
      ReadsBack vars e (.bool true) := by
  intro e vars
  refine ⟨rfl, reads_back ?_ (.bool true)⟩
  rintro name path keys slot target known there
  cases target
  cases known
  cases there
  have rows : "rows" ≠ "length" := by decide
  have id : "id" ≠ "length" := by decide
  exact ⟨rows, trivial, id, trivial⟩

/-- **Not everything is read back.** The length of an object is the count of its fields even where a
field has that name, and this is the design. What is stored in an object under the text of a number, or
of a truth value, is not found by that key again, since reading takes neither for the name of a field;
this is a slip of the code and not its design. -/
theorem not_all_read_back :
    ¬(∀ vars e value, ReadsBack vars e value) ∧
      ¬ReadsBack [("o", .object [])] (.member (.ident "o") "length") (.ofNat 5) ∧
      ¬ReadsBack [("o", .object [])] (.index (.ident "o") (.literal (.ofNat 1))) (.ofNat 5) ∧
      ¬ReadsBack [("o", .object [])] (.index (.ident "o") (.literal (.bool true))) (.ofNat 5) := by
  have length : ¬ReadsBack [("o", .object [])] (.member (.ident "o") "length") (.ofNat 5) := by
    intro all
    have read := all _ _ _ _ rfl rfl rfl rfl
    cases read
  refine ⟨fun all => length (all _ _ _), length, ?_, ?_⟩
  · intro all
    have read := all _ _ _ _ rfl rfl rfl rfl
    cases read
  · intro all
    have read := all _ _ _ _ rfl rfl rfl rfl
    cases read

end Automation.Script
