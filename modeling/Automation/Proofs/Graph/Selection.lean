import Automation.Graph.Choice
import Automation.Proofs.Expr.Context
import Automation.Regex.Reader

/-!
# The edge that is selected

The guard of an edge holds in a context or fails there, or there is none (`Edge.standing`). A decision
looks at its edges one after another, but what it selects is known from two of them: the first whose
guard holds, or else the last without a guard (`Edge.chooseBy_eq`). So the order between edges with a
guard and those without one does not matter, and neither do edges whose guard fails
(`Edge.selected`).
-/

namespace Automation.Edge

/-- What there is to say of the guard of an edge. -/
inductive Standing where
  /-- There is no condition, or a blank one. -/
  | unguarded
  | holding
  | failing
  deriving Repr, DecidableEq

/-- Lists that agree on the items with one property agree on those with a narrower one. -/
theorem filter_congr_of_imp {α : Type} {p q : α → Bool} {items items' : List α}
    (narrower : ∀ a, q a → p a) (same : items.filter p = items'.filter p) :
    items.filter q = items'.filter q := by
  have within (list : List α) : list.filter q = (list.filter p).filter q := by
    rw [List.filter_filter]
    congr 1
    funext a
    cases holds : q a with
    | false => rfl
    | true => simp [narrower a holds]
  rw [within items, within items', same]

section

variable [Regex.Library]

/-- The standing of an edge in a context. A condition, without the blanks around it, holds if its value
there is true. It fails if it is false or has no value, because it cannot be read or evaluated. -/
def standing (context : Fields) (e : Edge) : Standing :=
  match e.condition with
  | none => .unguarded
  | some text =>
    if Text.trim text = "" then .unguarded
    else
      match Expr.evaluateSource (Text.trim text) context with
      | .ok v => if v.truthy then .holding else .failing
      | .error _ => .failing

variable {context : Fields} {e : Edge}

theorem standing_of_unguarded (h : e.guard? = none) : e.standing context = .unguarded := by
  unfold guard? at h
  unfold standing
  cases written : e.condition with
  | none => rfl
  | some text =>
    simp only [written] at h
    split at h
    next blank => exact if_pos blank
    next => cases h

theorem standing_of_guard {guard : String} (h : e.guard? = some guard) :
    e.standing context = if guardHolds context guard then .holding else .failing := by
  unfold guard? at h
  cases written : e.condition with
  | none => simp [written] at h
  | some text =>
    simp only [written] at h
    split at h
    next => cases h
    next solid =>
      cases h
      unfold guardHolds Expr.evaluateCondition standing
      simp only [written, if_neg solid]
      cases Expr.evaluateSource (Text.trim text) context <;> rfl

variable {α : Type} {edge : α → Edge}

/-- **What is chosen**, by induction along the edges: the first one whose guard holds, else the last
one without a guard, else the default from before. -/
theorem chooseBy_eq (default : Option α) (items : List α) :
    chooseBy edge context default items =
      (items.find? fun a => (edge a).standing context = .holding).or
        ((items.filter fun a => (edge a).standing context = .unguarded).getLast?.or default) := by
  induction items generalizing default with
  | nil => rfl
  | cons a rest ih =>
    unfold chooseBy
    cases guarded : (edge a).guard? with
    | none =>
      have stands : (edge a).standing context = .unguarded := standing_of_unguarded guarded
      dsimp only
      rw [ih, List.find?_cons_of_neg (by simp [stands]), List.filter_cons_of_pos (by simp [stands]),
        List.getLast?_cons]
      cases (rest.filter fun a => (edge a).standing context = .unguarded).getLast? <;> simp
    | some guard =>
      have stands : (edge a).standing context =
          if guardHolds context guard then .holding else .failing := standing_of_guard guarded
      dsimp only
      cases holds : guardHolds context guard with
      | true =>
        rw [holds, if_pos rfl] at stands
        rw [if_pos rfl, List.find?_cons_of_pos (by simp [stands]), Option.some_or]
      | false =>
        rw [holds, if_neg Bool.false_ne_true] at stands
        rw [if_neg Bool.false_ne_true, ih, List.find?_cons_of_neg (by simp [stands]),
          List.filter_cons_of_neg (by simp [stands])]

/-- The choice is one of the items, or the default. -/
theorem mem_of_chooseBy {default : Option α} {items : List α} {a : α}
    (h : chooseBy edge context default items = some a) : a ∈ items ∨ default = some a := by
  rw [chooseBy_eq] at h
  rcases Option.or_eq_some_iff.mp h with first | ⟨-, others⟩
  · exact .inl (List.mem_of_find?_eq_some first)
  · rcases Option.or_eq_some_iff.mp others with last | ⟨-, before⟩
    · exact .inl (List.mem_of_mem_filter (List.mem_of_getLast? last))
    · exact .inr before

/-- With an edge without a guard there is a choice. -/
theorem choose?_of_default {edges : List Edge} (context : Fields) (h : e ∈ edges)
    (free : e.guard? = none) : ∃ e, choose? edges context = some e := by
  have among : e ∈ edges.filter fun e => e.standing context = .unguarded :=
    List.mem_filter.mpr ⟨h, by simp [standing_of_unguarded free]⟩
  rw [choose?, chooseBy_eq, List.getLast?_eq_some_getLast (List.ne_nil_of_mem among), Option.some_or]
  cases edges.find? fun e => e.standing context = .holding with
  | none => exact ⟨_, rfl⟩
  | some first => exact ⟨first, rfl⟩

/-- The choice between edges, each known by what stands for it. -/
theorem choose?_map (items : List α) :
    choose? (items.map edge) context = (chooseBy edge context none items).map edge := by
  rw [choose?, chooseBy_eq, chooseBy_eq, List.find?_map, List.filter_map, List.getLast?_map]
  simp only [Option.or_none, Option.map_or]
  rfl

/-- **Edges that agree where it counts are chosen from alike.** -/
theorem chooseBy_congr {items items' : List α}
    (holding : (items.filter fun a => (edge a).standing context = .holding) =
      items'.filter fun a => (edge a).standing context = .holding)
    (unguarded : (items.filter fun a => (edge a).standing context = .unguarded) =
      items'.filter fun a => (edge a).standing context = .unguarded) :
    chooseBy edge context none items = chooseBy edge context none items' := by
  rw [chooseBy_eq, chooseBy_eq, ← List.head?_filter, ← List.head?_filter, holding, unguarded]

/-- **The edge that a decision selects** is the first one, in order, whose condition holds, or if
there is none the last one without a condition, or if there is none of those either nothing. So it is
the same edge after edges without a condition were moved between the others, each group in its own
order, and after edges whose condition fails were added or left out. -/
theorem selected (edge : α → Edge) (context : Fields) :
    (∀ items, chooseBy edge context none items =
      (items.find? fun a => (edge a).standing context = .holding).or
        (items.filter fun a => (edge a).standing context = .unguarded).getLast?) ∧
    (∀ items items' : List α,
      (items.filter fun a => (edge a).standing context = .unguarded) =
          (items'.filter fun a => (edge a).standing context = .unguarded) →
        (items.filter fun a => (edge a).standing context ≠ .unguarded) =
          (items'.filter fun a => (edge a).standing context ≠ .unguarded) →
        chooseBy edge context none items = chooseBy edge context none items') ∧
    (∀ items items' : List α,
      (items.filter fun a => (edge a).standing context ≠ .failing) =
          (items'.filter fun a => (edge a).standing context ≠ .failing) →
        chooseBy edge context none items = chooseBy edge context none items') ∧
    ∀ items, choose? (items.map edge) context = (chooseBy edge context none items).map edge := by
  refine ⟨fun items => ?_, fun items items' unguarded guarded => ?_, fun items items' same => ?_,
    choose?_map⟩
  · rw [chooseBy_eq, Option.or_none]
  · exact chooseBy_congr (filter_congr_of_imp (by simp +contextual) guarded) unguarded
  · exact chooseBy_congr (filter_congr_of_imp (by simp +contextual) same)
      (filter_congr_of_imp (by simp +contextual) same)

end

/-- A condition with blanks around it, defaults before and behind it, and conditions that cannot be read
and that are null. -/
theorem selected_behind :
    let edge (target : String) (condition : Option String) : Edge :=
      ⟨"", "d", target, none, condition⟩
    let context : Fields := [("ok", .bool true)]
    choose? [edge "a" none, edge "b" (some " ok "), edge "c" (some " ")] context =
        choose? [edge "b" (some " ok "), edge "a" none, edge "c" (some " ")] context ∧
      choose? [edge "a" none, edge "x" (some "'"), edge "y" (some "no"), edge "b" (some " ok ")]
          context =
        choose? [edge "a" none, edge "b" (some " ok ")] context := by
  intro edge context
  have known := selected (fun e : Edge => e) context
  have bare : Text.trim " ok " = "ok" := by decide
  have ok : Expr.evaluateSource "ok" context = .ok (.bool true) :=
    Expr.evaluateSource_identifier (by decide) (by decide) context
  have no : Expr.evaluateSource "no" context = .ok .null :=
    Expr.evaluateSource_identifier (by decide) (by decide) context
  have a : (edge "a" none).standing context = .unguarded := rfl
  have b : (edge "b" (some " ok ")).standing context = .holding := by
    simp [standing, edge, bare, ok, Value.truthy]
  have c : (edge "c" (some " ")).standing context = .unguarded := by decide
  have x : (edge "x" (some "'")).standing context = .failing := by decide +kernel
  have y : (edge "y" (some "no")).standing context = .failing := by
    have bare : Text.trim "no" = "no" := by decide
    simp [standing, edge, bare, no, Value.truthy]
  exact ⟨known.2.1 _ _ (by simp [a, b, c]) (by simp [a, b, c]),
    known.2.2.1 _ _ (by simp [a, b, x, y])⟩

end Automation.Edge
