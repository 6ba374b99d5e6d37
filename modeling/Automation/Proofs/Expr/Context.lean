import Automation.Execution.Result
import Automation.Expr.Eval
import Automation.Proofs.Expr.Path
import Automation.Proofs.Value.Record
import Automation.Regex.Reader

/-!
# Reading the context

The context of a node binds the fields of the input, the input as a whole and the results so far; of
entries with one name the last one counts (`Results.get?_context`). A condition reads each of them
back: under a quoted key of the whole context, whatever text the key is, and by its name alone where
that is an identifier (`context_read`).
-/

namespace Automation

/-- **The context under a key**: the last result of a node with that id, else the input as a whole
under its name, else a field of the input. -/
theorem Results.get?_context (key : String) (input : Fields) (results : Results) :
    Fields.get? key (context input results) =
      ((Fields.get? key results.reverse).map NodeResult.toValue).or
        (if key = "input" then some (.object input) else Fields.get? key input) := by
  rw [← Fields.get?_insert, context]
  generalize Fields.insert "input" (.object input) input = fields
  induction results generalizing fields with
  | nil => rfl
  | cons entry rest ih =>
    obtain ⟨id, r⟩ := entry
    rw [List.foldl_cons, ih, Fields.get?_insert, List.reverse_cons, Fields.get?_append]
    by_cases same : key = id
    · subst same
      cases Fields.get? key rest.reverse <;> simp [Fields.get?]
    · simp [Fields.get?, same, Ne.symm same]

namespace Expr

/-! ## Sources -/

/-- The source that reads the context under a key, which is quoted. -/
def keySource (key : String) : String :=
  contextName ++ "[" ++ String.ofList (Quoted.chars ⟨.double, key⟩) ++ "]"

theorem scan_quoted (s : Quoted) (pos : Nat) (after : List Char) :
    scan pos (s.chars ++ after) =
      (scan (pos + byteSize s.chars) after).map (⟨.string s.text, pos⟩ :: ·) := by
  obtain ⟨solid, slash⟩ := s.quote.solid
  have quoting := s.quote.quoting s.text.toList
  have read := lexeme_quoting s.quote quoting after
  rw [String.ofList_toList, ← List.singleton_append, ← List.append_assoc] at read
  refine scan_token (triviaLength_solid solid slash _) ?_ pos
  rw [read, List.length_append, List.length_singleton]

theorem tokenize_keySource (key : String) :
    ∃ a b c d, tokenize (keySource key) =
      .ok [⟨.ident contextName, 0⟩, ⟨.leftBracket, a⟩, ⟨.string key, b⟩, ⟨.rightBracket, c⟩,
        ⟨.eof, d⟩] := by
  let name : Identifier := ⟨contextName, by decide⟩
  let quoted : Quoted := ⟨.double, key⟩
  have chars : (keySource key).toList = name.1.toList ++ '[' :: (quoted.chars ++ [']']) := by
    simp [keySource, name, quoted]
  have onward : Onward ('[' :: (quoted.chars ++ [']'])) := by
    rintro c ⟨⟩
    exact .inr rfl
  have read := scan_name 0 name onward
  rw [scan_mark (by decide) (by decide) rfl, scan_quoted, scan_mark (by decide) (by decide) rfl,
    scan_nil] at read
  exact ⟨_, _, _, _, by rw [tokenize, chars, read]; rfl⟩

theorem tokenize_identifier (x : Identifier) :
    ∃ a, tokenize x.1 = .ok [⟨.ident x.1, 0⟩, ⟨.eof, a⟩] := by
  have onward : Onward [] := nofun
  have read := scan_name 0 x onward
  rw [List.append_nil, scan_nil] at read
  exact ⟨_, read⟩

/-- One level of nesting is enough for a name, and three are for a key. -/
theorem parseExpression_keySource (key : String) (depth : Nat) :
    parseExpression (keySource key) (depth + 3) =
      .ok (.index (.ident contextName) (.literal (.string key))) := by
  obtain ⟨a, b, c, d, tokens⟩ := tokenize_keySource key
  have ends : Ends [⟨.eof, d⟩] := ⟨rfl, rfl⟩
  have closed : Ends [⟨.rightBracket, c⟩, ⟨.eof, d⟩] := ⟨rfl, rfl⟩
  have inside : expression (depth + 1) 1 [⟨.string key, b⟩, ⟨.rightBracket, c⟩, ⟨.eof, d⟩] =
      .ok (.literal (.string key), [⟨.rightBracket, c⟩, ⟨.eof, d⟩]) :=
    expression_of (operand_of_primary rfl rfl (suffixes_stop closed.1)) (closed.chain _ _ _)
  have whole : expression (depth + 3) 1 [⟨.ident contextName, 0⟩, ⟨.leftBracket, a⟩,
      ⟨.string key, b⟩, ⟨.rightBracket, c⟩, ⟨.eof, d⟩] =
        .ok (.index (.ident contextName) (.literal (.string key)), [⟨.eof, d⟩]) :=
    expression_of (operand_of_primary rfl rfl (suffixes_index inside (suffixes_stop ends.1)))
      (ends.chain _ _ _)
  simp only [parseExpression, tokens, parseTokens, whole]
  rfl

theorem parseExpression_identifier (x : Identifier) (depth : Nat) :
    parseExpression x.1 (depth + 1) = .ok (.ident x.1) := by
  obtain ⟨a, tokens⟩ := tokenize_identifier x
  have ends : Ends [⟨.eof, a⟩] := ⟨rfl, rfl⟩
  have whole : expression (depth + 1) 1 [⟨.ident x.1, 0⟩, ⟨.eof, a⟩] =
      .ok (.ident x.1, [⟨.eof, a⟩]) :=
    expression_of (operand_of_primary rfl rfl (suffixes_stop ends.1)) (ends.chain _ _ _)
  simp only [parseExpression, tokens, parseTokens, whole]
  rfl

/-! ## Values -/

theorem lookUp_lenient (vars : Fields) (name : String) :
    lookUp .lenient vars name = .ok ((Fields.get? name vars).getD .null) := by
  unfold lookUp
  cases Fields.get? name vars <;> rfl

section

variable [Regex.Library]

theorem evaluateSource_keySource (key : String) (context : Fields) :
    evaluateSource (keySource key) context = .ok ((Fields.get? key context).getD .null) := by
  have read : parseExpression (keySource key) conditionDepth = _ :=
    parseExpression_keySource key (conditionDepth - 3)
  simp only [evaluateSource, read, Term.eval, lookUp_lenient, bindingsOfContext,
    Fields.get?_insert_self]
  rfl

theorem evaluateSource_identifier {x : String} (identifier : isIdentifier x = true)
    (other : x ≠ contextName) (context : Fields) :
    evaluateSource x context = .ok ((Fields.get? x context).getD .null) := by
  have read : parseExpression x conditionDepth = _ :=
    parseExpression_identifier ⟨x, identifier⟩ (conditionDepth - 1)
  simp only [evaluateSource, read, Term.eval, lookUp_lenient, bindingsOfContext,
    Fields.get?_insert_of_ne other]

/-- **A condition reads every entry of its context back**: under its key, and by its name alone
where that is an identifier that does not stand for the whole context. -/
theorem context_read (input : Fields) (results : Results) (key : String) (v : Value)
    (there : Fields.get? key (Results.context input results) = some v) :
    ((Fields.get? key results.reverse).map NodeResult.toValue).or
        (if key = "input" then some (.object input) else Fields.get? key input) = some v ∧
      evaluateSource (keySource key) (Results.context input results) = .ok v ∧
      (isIdentifier key = true → key ≠ contextName →
        evaluateSource key (Results.context input results) = .ok v) := by
  refine ⟨?_, ?_, fun identifier other => ?_⟩
  · rw [← Results.get?_context, there]
  · rw [evaluateSource_keySource, there, Option.getD_some]
  · rw [evaluateSource_identifier identifier other, there, Option.getD_some]

end

/-- A key with a quote, a backslash and a line break in it, and a node that has the name of a
function and of a field of the input. -/
theorem context_read_quoted :
    let input : Fields := [("\"\\\n", .bool true), ("len", .null)]
    let results : Results := [("len", .succeeded)]
    evaluateSource "ctx[\"\\\"\\\\\n\"]" (Results.context input results) = .ok (.bool true) ∧
      evaluateSource "len" (Results.context input results) =
        .ok (.object [("success", .bool true)]) := by
  intro input results
  have quoted := context_read input results "\"\\\n" (.bool true) rfl
  have named := context_read input results "len" (.object [("success", .bool true)]) rfl
  have source : keySource "\"\\\n" = "ctx[\"\\\"\\\\\n\"]" := by decide
  exact ⟨source ▸ quoted.2.1, named.2.2 (by decide) (by decide)⟩

end Expr

end Automation
