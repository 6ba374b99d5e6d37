import Automation.Proofs.Value.Order
import Automation.Script.Assign
import Mathlib.Data.List.Forall2

/-!
# What an assignment leaves alone

A place in a value is a list of steps down to it, each to a field of an object or to an item of an
array (`Value.at?`). An assignment takes one key after another, and `Puts` says what one key does to
a slot: it is the only thing that the proofs here know of it (`puts_of_stored`). From that follows,
by induction on the keys, what an assignment does to every place: it leaves alone those that depart
from its path (`stored_aside`), an array on the path grows only at its end (`stored_array`), and the
value is where the path leads (`stored_there`).

An assignment that fails has not changed anything yet: whatever it would have created takes any
further key (`assigned_or_unchanged`).
-/

namespace Automation

/-- A step down into a value. -/
inductive Step where
  /-- To the field of an object. -/
  | field (name : String)
  /-- To the item of an array. -/
  | item (i : Nat)
  deriving Repr, DecidableEq

namespace Value

/-- What is below a value one step down, if anything. -/
def below? : Value → Step → Option Value
  | .object fields, .field name => Fields.get? name fields
  | .array items, .item i => items[i]?
  | _, _ => none

/-- What is at a place of a value, if anything. -/
def at? (v : Value) : List Step → Option Value
  | [] => some v
  | step :: rest => (v.below? step).bind fun w => w.at? rest

/-- The position that a key is, if it is one. -/
def position? : Value → Option Nat
  | .number n => n.toNat?
  | _ => none

@[simp] theorem at?_nil (v : Value) : v.at? [] = some v := by
  rw [at?]

@[simp] theorem at?_cons (v : Value) (step : Step) (rest : List Step) :
    v.at? (step :: rest) = (v.below? step).bind fun w => w.at? rest := by
  rw [at?]

theorem at?_null {place : List Step} (h : place ≠ []) : Value.null.at? place = none := by
  cases place with
  | nil => exact absurd rfl h
  | cons step rest => simp [below?]

end Value

namespace Script

/-- Whether a key leads to a step: by its text to a field, as a position to an item. -/
def Leads (key : Value) : Step → Prop
  | .field name => key.display = name
  | .item i => key.position? = some i

/-- Whether a place departs from the path of some keys: at some step it goes another way. -/
def Departs : List Value → List Step → Prop
  | key :: keys, step :: rest => ¬Leads key step ∨ Departs keys rest
  | _, _ => False

theorem Departs.ne_nil {keys : List Value} {place : List Step} (h : Departs keys place) :
    place ≠ [] := by
  rintro rfl
  cases keys <;> exact h

/-! ## One key -/

/-- What one key makes of a slot: it goes down to what was below, or to null, and when that has
become `inner` the slot has become `result`. -/
inductive Puts (key : Value) (inner : Value) : (slot below result : Value) → Prop where
  /-- A null becomes an object. -/
  | null : Puts key inner .null .null (.object [(key.display, inner)])
  | field (fields : Fields) :
    Puts key inner (.object fields) ((Fields.get? key.display fields).getD .null)
      (.object (Fields.insert key.display inner fields))
  | item {items : List Value} {i : Nat} {v : Value} (position : key.position? = some i)
    (there : items[i]? = some v) : Puts key inner (.array items) v (.array (items.set i inner))
  /-- At its end an array grows. -/
  | push {items : List Value} (position : key.position? = some items.length) :
    Puts key inner (.array items) .null (.array (items ++ [inner]))

/-- An array takes a position up to its length. -/
theorem puts_of_array {key value : Value} {keys items : List Value}
    (stored : (storeAt (key :: keys) value (.array items)).fault = none) :
    ∃ below, (storeAt keys value below).fault = none ∧
      Puts key (storeAt keys value below).slot (.array items) below
        (storeAt (key :: keys) value (.array items)).slot := by
  cases key with
  | number n =>
    rw [storeAt] at stored ⊢
    dsimp only at stored ⊢
    cases position : n.toNat? with
    | none => simp [position] at stored
    | some i =>
      simp only [position] at stored ⊢
      by_cases within : i < items.length
      · simp only [if_pos within, List.getElem?_eq_getElem within, Option.getD_some] at stored ⊢
        exact ⟨items[i], stored, .item position (List.getElem?_eq_getElem within)⟩
      · by_cases atEnd : i = items.length
        · subst atEnd
          simp only [Nat.lt_irrefl, if_false, if_true] at stored ⊢
          exact ⟨.null, stored, .push position⟩
        · simp [within, atEnd] at stored
  | null => simp [storeAt] at stored
  | bool b => simp [storeAt] at stored
  | string s => simp [storeAt] at stored
  | array items => simp [storeAt] at stored
  | object fields => simp [storeAt] at stored

/-- **What the first key of an assignment does**, if the assignment succeeds. -/
theorem puts_of_stored {key value slot : Value} {keys : List Value}
    (stored : (storeAt (key :: keys) value slot).fault = none) :
    ∃ below, (storeAt keys value below).fault = none ∧
      Puts key (storeAt keys value below).slot slot below
        (storeAt (key :: keys) value slot).slot := by
  cases slot with
  | null =>
    rw [storeAt] at stored ⊢
    exact ⟨.null, stored, .null⟩
  | object fields =>
    rw [storeAt] at stored ⊢
    exact ⟨_, stored, .field fields⟩
  | array items => exact puts_of_array stored
  | bool b => simp [storeAt] at stored
  | number n => simp [storeAt] at stored
  | string s => simp [storeAt] at stored

namespace Puts

variable {key inner slot below result : Value} (h : Puts key inner slot below result)
include h

/-- A step that the key does not lead to leads to what it led to. -/
theorem aside {step : Step} (other : ¬Leads key step) : result.below? step = slot.below? step := by
  cases h with
  | null =>
    cases step with
    | field name => simp [Value.below?, Fields.get?, show key.display ≠ name from other]
    | item i => rfl
  | field fields =>
    cases step with
    | field name => exact Fields.get?_insert_of_ne (Ne.symm other) inner fields
    | item i => rfl
  | @item items i v position there =>
    cases step with
    | field name => rfl
    | item j =>
      have ne : i ≠ j := by
        rintro rfl
        exact other position
      exact List.getElem?_set_ne ne
  | @push items position =>
    cases step with
    | field name => rfl
    | item j =>
      have ne : j ≠ items.length := by
        rintro rfl
        exact other position
      rcases Nat.lt_or_ge j items.length with less | more
      · exact List.getElem?_append_left less
      · simp only [Value.below?]
        rw [List.getElem?_eq_none (by simp; omega), List.getElem?_eq_none more]

/-- A step that the key leads to leads to what has been put there, unless the slot is of the other
kind. -/
theorem along {step : Step} (leads : Leads key step) :
    result.below? step = none ∧ slot.below? step = none ∨
      result.below? step = some inner ∧ (slot.below? step).getD .null = below := by
  cases h with
  | null =>
    cases step with
    | field name =>
      right
      simp [Value.below?, Fields.get?, show key.display = name from leads]
    | item i => exact .inl ⟨rfl, rfl⟩
  | field fields =>
    cases step with
    | field name =>
      right
      have same : key.display = name := leads
      subst same
      exact ⟨Fields.get?_insert_self .., rfl⟩
    | item i => exact .inl ⟨rfl, rfl⟩
  | @item items i v position there =>
    cases step with
    | field name => exact .inl ⟨rfl, rfl⟩
    | item j =>
      right
      cases Option.some.inj (position.symm.trans leads)
      exact ⟨List.getElem?_set_self (List.getElem?_eq_some_iff.mp there).1,
        by simp [Value.below?, there]⟩
  | @push items position =>
    cases step with
    | field name => exact .inl ⟨rfl, rfl⟩
    | item j =>
      right
      cases Option.some.inj (position.symm.trans leads)
      exact ⟨List.getElem?_concat_length, by simp [Value.below?]⟩

/-- The key leads to a step that leads to what has been put there. -/
theorem there : ∃ step, Leads key step ∧ result.below? step = some inner := by
  cases h with
  | null => exact ⟨.field key.display, rfl, by simp [Value.below?, Fields.get?]⟩
  | field fields => exact ⟨.field key.display, rfl, Fields.get?_insert_self ..⟩
  | @item items i v position there =>
    exact ⟨.item i, position, List.getElem?_set_self (List.getElem?_eq_some_iff.mp there).1⟩
  | @push items position => exact ⟨.item items.length, position, List.getElem?_concat_length⟩

/-- An array takes the key as a position, at most at its end, where it grows. -/
theorem array {items : List Value} (array : slot = .array items) :
    ∃ items' i, result = .array items' ∧ key.position? = some i ∧ i ≤ items.length ∧
      items'.length = if i = items.length then items.length + 1 else items.length := by
  cases h with
  | null => cases array
  | field fields => cases array
  | @item _ i v position there =>
    cases array
    have within := (List.getElem?_eq_some_iff.mp there).1
    exact ⟨_, i, rfl, position, Nat.le_of_lt within, by
      rw [List.length_set, if_neg (Nat.ne_of_lt within)]⟩
  | @push _ position =>
    cases array
    exact ⟨_, _, rfl, position, Nat.le_refl _, by simp⟩

end Puts

/-! ## All keys -/

/-- **What departs from the path stays as it was**, or as absent. By induction on the keys: the first
one leaves the steps alone that it does not lead to, and the others what it leads to. -/
theorem stored_aside {keys : List Value} {value slot : Value}
    (stored : (storeAt keys value slot).fault = none) {place : List Step}
    (departs : Departs keys place) : (storeAt keys value slot).slot.at? place = slot.at? place := by
  induction keys generalizing slot place with
  | nil => cases departs
  | cons key keys ih =>
    cases place with
    | nil => cases departs
    | cons step rest =>
      obtain ⟨below, further, puts⟩ := puts_of_stored stored
      rw [Value.at?_cons, Value.at?_cons]
      by_cases leads : Leads key step
      · have onward : Departs keys rest := departs.resolve_left (not_not_intro leads)
        rcases puts.along leads with ⟨gone, absent⟩ | ⟨put, was⟩
        · rw [gone, absent]
        · rw [put, Option.bind_some, ih further onward, ← was]
          -- What was absent is null for the keys to come, and nothing is below a null either.
          cases slot.below? step with
          | none => exact Value.at?_null onward.ne_nil
          | some v => rfl
      · rw [puts.aside leads]

/-- **An array on the path grows by one where it is indexed at its end**, and keeps its length
elsewhere. -/
theorem stored_array {before after : List Value} {key value slot : Value}
    (stored : (storeAt (before ++ key :: after) value slot).fault = none) {place : List Step}
    (along : List.Forall₂ Leads before place) {items : List Value}
    (array : slot.at? place = some (.array items)) :
    ∃ items' i, (storeAt (before ++ key :: after) value slot).slot.at? place = some (.array items') ∧
      key.position? = some i ∧ i ≤ items.length ∧
      items'.length = if i = items.length then items.length + 1 else items.length := by
  induction along generalizing slot with
  | nil =>
    obtain ⟨below, _, puts⟩ := puts_of_stored stored
    obtain ⟨items', i, result, rest⟩ := puts.array (Option.some.inj array)
    exact ⟨items', i, congrArg some result, rest⟩
  | @cons k step before rest leads _ ih =>
    rw [List.cons_append] at stored ⊢
    obtain ⟨below, further, puts⟩ := puts_of_stored stored
    rw [Value.at?_cons] at array
    obtain ⟨v, there, array⟩ := Option.bind_eq_some_iff.mp array
    rcases puts.along leads with ⟨_, absent⟩ | ⟨put, was⟩
    · rw [there] at absent
      cases absent
    · rw [there, Option.getD_some] at was
      subst was
      rw [Value.at?_cons, put, Option.bind_some]
      exact ih further array

/-- **The value is where the path leads.** -/
theorem stored_there {keys : List Value} {value slot : Value}
    (stored : (storeAt keys value slot).fault = none) :
    ∃ place, List.Forall₂ Leads keys place ∧
      (storeAt keys value slot).slot.at? place = some value := by
  induction keys generalizing slot with
  | nil => exact ⟨[], .nil, rfl⟩
  | cons key keys ih =>
    obtain ⟨below, further, puts⟩ := puts_of_stored stored
    obtain ⟨step, leads, put⟩ := puts.there
    obtain ⟨rest, along, there⟩ := ih further
    exact ⟨step :: rest, .cons leads along, by rw [Value.at?_cons, put, Option.bind_some, there]⟩

/-! ## Assignments that fail -/

/-- Below a null every key is taken. -/
theorem stored_null (keys : List Value) (value : Value) :
    (storeAt keys value .null).fault = none := by
  induction keys with
  | nil => rfl
  | cons key keys ih =>
    rw [storeAt]
    exact ih

/-- **An assignment that fails leaves the slot as it was.** It has come only to what was there: below
what it creates nothing fails. -/
theorem slot_of_fault {keys : List Value} {value slot : Value} (ordered : slot.Ordered)
    (failed : (storeAt keys value slot).fault ≠ none) : (storeAt keys value slot).slot = slot := by
  induction keys generalizing slot with
  | nil => exact absurd rfl failed
  | cons key keys ih =>
    cases slot with
    | null => exact absurd (stored_null _ value) failed
    | object fields =>
      rw [storeAt] at failed ⊢
      dsimp only at failed ⊢
      cases there : Fields.get? key.display fields with
      | none =>
        rw [there] at failed
        exact absurd (stored_null keys value) failed
      | some v =>
        rw [there] at failed
        rw [Option.getD_some, ih (ordered.field there) failed]
        cases ordered with
        | object ordered _ => rw [ordered.insert_get? there]
    | array items =>
      cases key with
      | number n =>
        rw [storeAt] at failed ⊢
        dsimp only at failed ⊢
        cases position : n.toNat? with
        | none => rfl
        | some i =>
          simp only [position] at failed ⊢
          by_cases within : i < items.length
          · have there := List.getElem?_eq_getElem within
            simp only [if_pos within, there, Option.getD_some] at failed ⊢
            rw [ih (ordered.item there) failed, List.set_getElem_self]
          · by_cases atEnd : i = items.length
            · simp only [if_neg within, if_pos atEnd] at failed
              exact absurd (stored_null keys value) failed
            · simp only [if_neg within, if_neg atEnd]
      | null => rfl
      | bool b => rfl
      | string s => rfl
      | array items => rfl
      | object fields => rfl
    | bool b => rfl
    | number n => rfl
    | string s => rfl

/-! ## Variables -/

/-- **What an assignment leaves**: the other variables, and in its own one all that departs from its
path, are as they were, or as absent; an array on the path has its length, or one more if it is
indexed at its end; and the value is where the path leads. -/
structure Assigned (name : String) (keys : List Value) (value : Value) (vars vars' : Fields) :
    Prop where
  others : ∀ other, other ≠ name → Fields.get? other vars' = Fields.get? other vars
  own : ∃ slot slot', Fields.get? name vars = some slot ∧ Fields.get? name vars' = some slot' ∧
    (∀ place, Departs keys place → slot'.at? place = slot.at? place) ∧
    (∀ before key after, keys = before ++ key :: after →
      ∀ place, List.Forall₂ Leads before place →
      ∀ items, slot.at? place = some (.array items) →
      ∃ items' i, slot'.at? place = some (.array items') ∧ key.position? = some i ∧
        i ≤ items.length ∧
        items'.length = if i = items.length then items.length + 1 else items.length) ∧
    ∃ place, List.Forall₂ Leads keys place ∧ slot'.at? place = some value

/-- What an assignment does to the variables: it stores below its own one. -/
theorem assignPath_cases (vars : Fields) (name : String) (keys : List Value) (value : Value) :
    (Fields.get? name vars = none ∧ assignPath vars name keys value = (.error (.undefined name), vars)) ∨
    ∃ slot, Fields.get? name vars = some slot ∧
      assignPath vars name keys value =
        (match (storeAt keys value slot).fault with
          | none => .ok ()
          | some fault => .error (.mistyped fault),
        Fields.insert name (storeAt keys value slot).slot vars) := by
  rw [assignPath]
  cases there : Fields.get? name vars with
  | none => exact .inl ⟨rfl, rfl⟩
  | some slot =>
    refine .inr ⟨slot, rfl, ?_⟩
    dsimp only
    cases (storeAt keys value slot).fault <;> rfl

/-- **An assignment does what it says and no more, or nothing at all.** If it succeeds, whatever
departs from its path is as it was; if it fails, all variables are as they were. The fields of
objects stand in the order of their keys, as in all values of scripts. -/
theorem assigned_or_unchanged {vars : Fields} (ordered : (Value.object vars).Ordered) (name : String)
    (keys : List Value) (value : Value) :
    (∀ vars', assignPath vars name keys value = (.ok (), vars') →
      Assigned name keys value vars vars') ∧
    ∀ e vars', assignPath vars name keys value = (.error e, vars') → vars' = vars := by
  rcases assignPath_cases vars name keys value with ⟨_, assigned⟩ | ⟨slot, there, assigned⟩
  · rw [assigned]
    refine ⟨fun vars' h => ?_, fun e vars' h => ?_⟩
    · cases h
    · cases h
      rfl
  · rw [assigned]
    cases fault : (storeAt keys value slot).fault with
    | none =>
      refine ⟨fun vars' h => ?_, fun e vars' h => ?_⟩
      · cases h
        refine ⟨fun other ne => Fields.get?_insert_of_ne ne _ vars, slot, _, there,
          Fields.get?_insert_self .., fun place departs => stored_aside fault departs, ?_,
          stored_there fault⟩
        rintro before key after rfl place along items array
        exact stored_array fault along array
      · cases h
    | some fault' =>
      refine ⟨fun vars' h => ?_, fun e vars' h => ?_⟩
      · cases h
      · cases h
        rw [slot_of_fault (ordered.field there) (by rw [fault]; exact Option.some_ne_none _)]
        cases ordered with
        | object ordered _ => exact ordered.insert_get? there

/-- One item behind the end of an inner array, and then a name where a position is due. -/
theorem assigned_inner_array :
    let vars : Fields := [("other", .null), ("x", .object [("a", .array [.null])])]
    Assigned "x" [.string "a", .ofNat 1, .string "b"] (.bool true) vars
        [("other", .null), ("x", .object [("a", .array [.null, .object [("b", .bool true)]])])] ∧
      assignPath vars "x" [.string "a", .string "b"] (.bool true) =
        (.error (.mistyped (.setProperty "b" "array")), vars) := by
  intro vars
  have inner : (Value.object [("a", .array [.null])]).Ordered := by
    refine .object (List.pairwise_singleton ..) fun field there => ?_
    cases List.mem_singleton.mp there
    exact .array fun v there => List.mem_singleton.mp there ▸ .null
  have ordered : (Value.object vars).Ordered := by
    refine .object (List.pairwise_pair.mpr (by decide)) fun field there => ?_
    rcases List.mem_pair.mp there with rfl | rfl
    · exact .null
    · exact inner
  have unchanged := (assigned_or_unchanged ordered "x" [.string "a", .string "b"] (.bool true)).2
    _ (assignPath vars "x" [.string "a", .string "b"] (.bool true)).2 rfl
  exact ⟨(assigned_or_unchanged ordered "x" _ _).1 _ rfl, Prod.ext rfl unchanged⟩

end Script

end Automation
