import Mathlib
import Automation.Proofs.Expr.Continued
import Automation.Proofs.Expr.Guided
import Automation.Proofs.Expr.Limit

/-!
# Where tokens are refused

Tokens with the end of a source behind them are refused at the first one that cannot be gone on with
(`refused_at_first`): what stands before it is the beginning of an expression, and together with it of
none. They are read as an expression, with enough levels of nesting, if they lead to a complete one
(`exists_parseTokens_iff`).
-/

namespace Automation.Expr

/-! ## Tokens with an end -/

/-- The tokens are the beginning of some that are read as an expression at some depth. -/
def Viable (front : List Token) : Prop :=
  ∃ rest limit e, Terminated (front ++ rest) ∧ parseTokens limit (front ++ rest) = .ok e

/-- Tokens without an end stand before the end. -/
theorem exists_between {front before after : List Token} {stop : Nat}
    (split : front ++ [⟨.eof, stop⟩] = before ++ after)
    (inside : ∀ kind ∈ before.map Token.kind, kind ≠ .eof) :
    ∃ between, front = before ++ between ∧ after = between ++ [⟨.eof, stop⟩] := by
  rcases List.append_eq_append_iff.mp split with ⟨more, rfl, last⟩ | ⟨between, rfl, rfl⟩
  · cases more with
    | nil => exact ⟨[], by simp, last.symm⟩
    | cons t more =>
      obtain rfl : (⟨.eof, stop⟩ : Token) = t := (List.cons.inj last).1
      exact absurd rfl (inside .eof (by simp))
  · exact ⟨between, rfl, rfl⟩

section Sources

variable {limit : Nat} {ts front : List Token} {stop : Nat}

/-- The token that is blamed may not follow the ones before it. -/
theorem parseTokens_stuck {pos : Nat} {fault : Fault}
    (refused : parseTokens limit ts = .error (.malformed pos fault)) :
    ∃ before after y, ts = before ++ after ∧ (peek after).pos = pos ∧
      fault.Blames (peek after).kind ∧
      Expectation.start.run (before.map Token.kind) = some y ∧ y.Refuses (peek after).kind := by
  have meets := (guided limit).expression 1 true [] ts
  unfold parseTokens at refused
  split at refused
  next read =>
    cases refused
    rw [read] at meets
    cases meets with
    | stuck split led refused blames => exact ⟨_, _, _, split, rfl, blames, led, refused⟩
  next e rest read =>
    rw [read] at meets
    cases meets with
    | ok split led holds =>
      obtain ⟨⟨callee, whole, rfl, -⟩, stops⟩ := holds
      split at refused
      next => cases refused
      next goesOn =>
        cases refused
        refine ⟨_, _, _, split, rfl, rfl, led, ?_, fun last => absurd last goesOn⟩
        exact Expectation.step_behind stops.ends.1 stops.ends.2

/-- What is read as an expression is complete. -/
theorem parseTokens_complete {e : Term} (read : parseTokens limit ts = .ok e) :
    ∃ before rest y, ts = before ++ rest ∧ (peek rest).kind = .eof ∧
      Expectation.start.run (before.map Token.kind) = some y ∧ y.Complete := by
  have meets := (guided limit).expression 1 true [] ts
  unfold parseTokens at read
  split at read
  next => cases read
  next e rest first =>
    rw [first] at meets
    cases meets with
    | ok split led holds =>
      obtain ⟨⟨callee, whole, rfl, -⟩, stops⟩ := holds
      split at read
      next last => exact ⟨_, _, _, split, last, led, callee, rfl, rfl⟩
      next => cases read

/-- **Tokens are read as an expression, with enough levels, if they lead to a complete one.** -/
theorem exists_parseTokens_iff (inside : ∀ t ∈ front, t.kind ≠ .eof) :
    (∃ limit e, parseTokens limit (front ++ [⟨.eof, stop⟩]) = .ok e) ↔
      ∃ y, Expectation.start.run (front.map Token.kind) = some y ∧ y.Complete := by
  constructor
  · rintro ⟨limit, e, read⟩
    obtain ⟨before, rest, y, split, last, led, complete⟩ := parseTokens_complete read
    obtain ⟨between, rfl, rfl⟩ := exists_between split (Expectation.ne_eof_of_run led)
    cases between with
    | nil =>
      rw [List.append_nil]
      exact ⟨y, led, complete⟩
    | cons t between => exact absurd last (inside t (by simp))
  · rintro ⟨y, led, complete⟩
    obtain ⟨threshold, -, answer, final, -, above⟩ := parseTokens_settles (front ++ [⟨.eof, stop⟩])
    have read := above threshold (Nat.le_refl _)
    cases final with
    | @ok e => exact ⟨threshold, e, read⟩
    | malformed pos fault =>
      obtain ⟨before, after, z, split, -, -, led', refused⟩ := parseTokens_stuck read
      obtain ⟨between, rfl, rfl⟩ := exists_between split (Expectation.ne_eof_of_run led')
      rw [List.map_append, Expectation.run_append, led', Option.bind_some] at led
      cases between with
      | nil =>
        obtain rfl : z = y := Option.some.inj led
        exact absurd complete (refused.2 rfl)
      | cons t between =>
        rw [List.map_cons, Expectation.run_cons,
          show z.step t.kind = none from refused.1] at led
        cases led

/-- Tokens that follow one another can be gone on with. -/
theorem Viable.of_run {y : Expectation} (led : Expectation.start.run (front.map Token.kind) = some y) :
    Viable front := by
  obtain ⟨z, closes, complete⟩ := y.run_completion
  have whole : Expectation.start.run
      ((front ++ y.completion.map (⟨·, 0⟩ : TokenKind → Token)).map Token.kind) = some z := by
    rw [List.map_append, Expectation.run_append, led, Option.bind_some, List.map_map]
    simpa [Function.comp_def] using closes
  have inside : ∀ t ∈ front ++ y.completion.map (⟨·, 0⟩ : TokenKind → Token), t.kind ≠ .eof :=
    fun t mem => Expectation.ne_eof_of_run whole _ (List.mem_map_of_mem mem)
  obtain ⟨limit, e, read⟩ : ∃ limit e, parseTokens limit
      (front ++ y.completion.map (⟨·, 0⟩ : TokenKind → Token) ++ [⟨.eof, 0⟩]) = .ok e :=
    (exists_parseTokens_iff inside).mpr ⟨z, whole, complete⟩
  rw [List.append_assoc] at read
  exact ⟨_, limit, e, ⟨_, 0, (List.append_assoc _ _ _).symm, inside⟩, read⟩

/-- A token that may not follow cannot be gone on with. -/
theorem not_viable_of_refuses {before : List Token} {t : Token} {y : Expectation}
    (led : Expectation.start.run (before.map Token.kind) = some y) (refused : y.Refuses t.kind) :
    ¬ Viable (before ++ [t]) := by
  rintro ⟨rest, limit, e, ⟨front, stop, split, inside⟩, read⟩
  rw [split] at read
  obtain ⟨z, led', complete⟩ := (exists_parseTokens_iff inside).mp ⟨limit, e, read⟩
  rw [List.append_assoc] at split
  obtain ⟨between, rfl, last⟩ := exists_between split.symm (Expectation.ne_eof_of_run led)
  rw [List.map_append, Expectation.run_append, led, Option.bind_some] at led'
  cases between with
  | nil =>
    obtain rfl : y = z := Option.some.inj led'
    obtain rfl : t = ⟨.eof, stop⟩ := (List.cons.inj last).1
    exact refused.2 rfl complete
  | cons t' between =>
    obtain rfl : t = t' := (List.cons.inj last).1
    rw [List.map_cons, Expectation.run_cons, refused.1] at led'
    cases led'

end Sources

/-- **Tokens are refused at the first one that cannot be gone on with.** What stands before it is the
beginning of some expression, and together with it of none. -/
theorem refused_at_first {ts : List Token} {limit : Nat} {refusal : Refusal}
    (terminated : Terminated ts) (enough : 2 * ts.length ≤ limit)
    (refused : parseTokens limit ts = .error refusal) :
    ∃ before t after fault, ts = before ++ t :: after ∧ refusal = .malformed t.pos fault ∧
      fault.Blames t.kind ∧ Viable before ∧ ¬ Viable (before ++ [t]) := by
  obtain ⟨front, stop, rfl, inside⟩ := terminated
  obtain ⟨threshold, within, answer, final, -, above⟩ :=
    parseTokens_settles (front ++ [⟨.eof, stop⟩])
  have some : 0 < (front ++ [(⟨.eof, stop⟩ : Token)]).length := by simp
  have settled : parseTokens limit (front ++ [⟨.eof, stop⟩]) = answer := above limit (by omega)
  obtain rfl : .error refusal = answer := refused.symm.trans settled
  cases final with
  | malformed pos fault =>
    obtain ⟨before, after, y, split, rfl, blames, led, refuses⟩ := parseTokens_stuck refused
    obtain ⟨between, -, last⟩ := exists_between split (Expectation.ne_eof_of_run led)
    -- The end is still to come, so there is a token to blame.
    obtain ⟨t, rest, rfl⟩ : ∃ t rest, after = t :: rest :=
      List.exists_cons_of_ne_nil (by simp [last])
    exact ⟨before, t, rest, fault, split, rfl, blames, .of_run led,
      not_viable_of_refuses led refuses⟩

/-- In a call of a call the second opening parenthesis is refused. -/
theorem refused_at_first_call :
    let ts : List Token := [⟨.ident "f", 0⟩, ⟨.leftParen, 1⟩, ⟨.ident "a", 2⟩, ⟨.rightParen, 3⟩,
      ⟨.leftParen, 4⟩, ⟨.kwNull, 5⟩, ⟨.eof, 9⟩]
    Terminated ts ∧ 2 * ts.length ≤ 14 ∧
      parseTokens 14 ts = .error (.malformed 4 .notCallable) ∧
      ∃ before t after fault, ts = before ++ t :: after ∧
        Refusal.malformed 4 .notCallable = .malformed t.pos fault ∧ fault.Blames t.kind ∧
        Viable before ∧ ¬ Viable (before ++ [t]) := by
  intro ts
  have terminated : Terminated ts := ⟨ts.dropLast, 9, rfl, by simp [ts]⟩
  have enough : 2 * ts.length ≤ 14 := Nat.le_refl _
  have refused : parseTokens 14 ts = .error (.malformed 4 .notCallable) := by cbv
  exact ⟨terminated, enough, refused, refused_at_first terminated enough refused⟩

end Automation.Expr
