import Automation.Expr.Builtin
import Automation.Regex.Reader
import Mathlib.Data.List.Infix

/-!
# Pieces of a text

Splitting and joining undo each other. The pieces of a text make the text again when they are joined
with the separator that split it, also where occurrences of the separator overlap and where it is
empty (`Text.join_split`). Pieces that were joined are found again if the separator does not begin
inside one of them, not even where the separator behind the piece would complete it
(`Text.split_join`); for a separator of one character that means that no piece holds it.
-/

namespace Automation.Text

variable {sep : List Char}

/-! ## Joining -/

theorem joinChars_cons (sep piece : List Char) {rest : List (List Char)} (more : rest ≠ []) :
    joinChars sep (piece :: rest) = piece ++ (sep ++ joinChars sep rest) := by
  cases rest with
  | nil => exact absurd rfl more
  | cons next rest => exact List.append_assoc piece sep _

theorem joinChars_of_empty (pieces : List (List Char)) : joinChars [] pieces = pieces.flatten := by
  induction pieces with
  | nil => rfl
  | cons piece rest ih =>
    cases rest with
    | nil => simp [joinChars]
    | cons next rest =>
      rw [joinChars_cons [] piece (List.cons_ne_nil _ _), ih]
      rfl

/-! ## Splitting -/

/-- The characters of an occurrence that was found are passed over. -/
theorem splitOnText_skip (piece found cs : List Char) :
    splitOnText sep found.length piece (found ++ cs) = splitOnText sep 0 piece cs := by
  induction found with
  | nil => rfl
  | cons c found ih => rw [List.length_cons, List.cons_append, splitOnText, ih]

theorem splitOnText_ne_nil (skip : Nat) (piece cs : List Char) :
    splitOnText sep skip piece cs ≠ [] := by
  induction cs generalizing skip piece with
  | nil => cases skip <;> exact List.cons_ne_nil _ _
  | cons c cs ih =>
    cases skip with
    | succ skip => exact ih skip piece
    | zero =>
      rw [splitOnText]
      split
      · exact List.cons_ne_nil _ _
      · exact ih 0 (c :: piece)

/-- **What is read makes what was left to read**: the piece that was begun, and the text behind the
characters that are passed over. -/
theorem joinChars_splitOnText (some : sep ≠ []) (skip : Nat) (piece cs : List Char) :
    joinChars sep (splitOnText sep skip piece cs) = piece.reverse ++ cs.drop skip := by
  induction cs generalizing skip piece with
  | nil => cases skip <;> simp [splitOnText, joinChars]
  | cons c cs ih =>
    cases skip with
    | succ skip => rw [splitOnText, ih, List.drop_succ_cons]
    | zero =>
      rw [splitOnText]
      split
      next opens =>
        obtain ⟨after, same⟩ := List.isPrefixOf_iff_prefix.mp opens
        obtain ⟨first, others, rfl⟩ := List.exists_cons_of_ne_nil some
        have behind : cs = others ++ after := (List.cons.inj same).2.symm
        rw [joinChars_cons _ _ (splitOnText_ne_nil _ _ _), ih, ← same, behind]
        simp
      next => simp [ih]

/-- The separator does not begin inside a piece, not even if it stands behind the piece. -/
def Clear (sep piece : List Char) : Prop :=
  occursIn sep (piece ++ sep.dropLast) = false

theorem Clear.tail {c : Char} {piece : List Char} (h : Clear sep (c :: piece)) :
    Clear sep piece :=
  (Bool.or_eq_false_iff.mp h).2

/-- **A clear piece ends at the separator behind it and not before.** -/
theorem splitOnText_clear (some : sep ≠ []) {piece : List Char} (h : Clear sep piece)
    (begun after : List Char) :
    splitOnText sep 0 begun (piece ++ (sep ++ after)) =
      (begun.reverse ++ piece) :: splitOnText sep 0 [] after := by
  induction piece generalizing begun with
  | nil =>
    obtain ⟨first, others, rfl⟩ := List.exists_cons_of_ne_nil some
    have found : (first :: others).isPrefixOf (first :: (others ++ after)) = true :=
      List.isPrefixOf_iff_prefix.mpr ⟨after, rfl⟩
    rw [List.nil_append, List.cons_append, splitOnText, if_pos found, List.append_nil]
    exact congrArg _ (splitOnText_skip [] others after)
  | cons c piece ih =>
    -- An occurrence here would end before the separator behind the piece does.
    have plain : ¬sep <+: c :: (piece ++ (sep ++ after)) := by
      intro opens
      have kept : c :: (piece ++ sep.dropLast) <+: c :: (piece ++ (sep ++ after)) := by
        rw [List.cons_prefix_cons, List.prefix_append_right_inj]
        exact ⟨rfl, (List.dropLast_prefix sep).trans (List.prefix_append sep after)⟩
      have short : sep.length ≤ (c :: (piece ++ sep.dropLast)).length := by
        simp
        omega
      have inside : sep <+: c :: (piece ++ sep.dropLast) :=
        List.prefix_of_prefix_length_le opens kept short
      have found : occursIn sep (c :: (piece ++ sep.dropLast)) = true :=
        occursIn_iff.mpr inside.isInfix
      exact Bool.false_ne_true (h.symm.trans found)
    rw [List.cons_append, splitOnText, if_neg (by rwa [List.isPrefixOf_iff_prefix]), ih h.tail]
    simp

theorem splitOnText_last {piece : List Char} (h : occursIn sep piece = false)
    (begun : List Char) : splitOnText sep 0 begun piece = [begun.reverse ++ piece] := by
  induction piece generalizing begun with
  | nil => simp [splitOnText]
  | cons c piece ih =>
    obtain ⟨plain, later⟩ := Bool.or_eq_false_iff.mp h
    rw [splitOnText, plain, if_neg Bool.false_ne_true, ih later]
    simp

theorem Clear.occursIn_eq_false {piece : List Char} (h : Clear sep piece) :
    occursIn sep piece = false := by
  cases found : occursIn sep piece with
  | false => rfl
  | true =>
    have inside : sep <:+: piece ++ sep.dropLast :=
      (occursIn_iff.mp found).trans (List.prefix_append piece sep.dropLast).isInfix
    exact absurd (h.symm.trans (occursIn_iff.mpr inside)) Bool.false_ne_true

/-- A separator of one character begins where that character is. -/
theorem clear_singleton {c : Char} {piece : List Char} : Clear [c] piece ↔ c ∉ piece := by
  rw [Clear, ← Bool.not_eq_true, occursIn_iff, List.dropLast_singleton, List.append_nil,
    List.singleton_infix_iff]

/-! ## Both -/

theorem joinChars_splitChars (sep text : List Char) : joinChars sep (splitChars sep text) = text := by
  unfold splitChars
  split
  next empty =>
    obtain rfl := List.isEmpty_iff.mp empty
    rw [joinChars_of_empty]
    simp [← List.flatMap_def]
  next some => simpa using joinChars_splitOnText (mt List.isEmpty_iff.mpr some) 0 [] text

/-- **Clear pieces are found again**, by induction on them: each ends at its own separator. -/
theorem splitChars_joinChars (some : sep ≠ []) {pieces : List (List Char)} (any : pieces ≠ [])
    (h : ∀ piece ∈ pieces, Clear sep piece) : splitChars sep (joinChars sep pieces) = pieces := by
  rw [splitChars, if_neg (mt List.isEmpty_iff.mp some)]
  induction pieces with
  | nil => exact absurd rfl any
  | cons piece rest ih =>
    obtain ⟨clear, others⟩ := List.forall_mem_cons.mp h
    cases rest with
    | nil => exact splitOnText_last clear.occursIn_eq_false []
    | cons next rest =>
      have more : next :: rest ≠ [] := List.cons_ne_nil _ _
      rw [joinChars_cons sep piece more, splitOnText_clear some clear, ih more others]
      rfl

/-- **The pieces of a text make the text again.** -/
theorem join_split (sep text : String) : join sep (split sep text) = text := by
  have pieces : (split sep text).map String.toList = splitChars sep.toList text.toList := by
    simp [split, Function.comp_def]
  rw [join, pieces, joinChars_splitChars, String.ofList_toList]

theorem split_join {sep : String} (some : sep ≠ "") {texts : List String} (any : texts ≠ [])
    (h : ∀ t ∈ texts, Clear sep.toList t.toList) : split sep (join sep texts) = texts := by
  have found : splitChars sep.toList (joinChars sep.toList (texts.map String.toList)) =
      texts.map String.toList :=
    splitChars_joinChars (by simpa using some) (by simpa using any) (by simpa using h)
  rw [split, join, String.toList_ofList, found]
  simp [Function.comp_def]

end Automation.Text

namespace Automation.Expr.Builtin

section

variable [Regex.Library]

theorem call_split (s sep : String) :
    call "split" [.string s, .string sep] = .ok (.array ((Text.split sep s).map .string)) := rfl

theorem call_join (texts : List String) (sep : String) :
    call "join" [.array (texts.map .string), .string sep] = .ok (.string (Text.join sep texts)) := by
  have shown : (texts.map Value.string).map Value.display = texts := by
    simp [Function.comp_def, Value.display]
  have called : call "join" [.array (texts.map .string), .string sep] =
      .ok (.string (Text.join sep ((texts.map Value.string).map Value.display))) := rfl
  rw [called, shown]

/-- **Splitting and joining undo each other in calls.** A text that is split is the same text when
it is joined with the same separator. Texts that are joined with one character are the same texts
when they are split at it, if there are any and none of them holds it. -/
theorem call_split_join :
    (∀ s sep : String, ∃ parts, call "split" [.string s, .string sep] = .ok parts ∧
      call "join" [parts, .string sep] = .ok (.string s)) ∧
    ∀ (c : Char) (texts : List String), texts ≠ [] → (∀ t ∈ texts, c ∉ t.toList) →
      ∃ joined,
        call "join" [.array (texts.map .string), .string (.singleton c)] = .ok joined ∧
          call "split" [joined, .string (.singleton c)] = .ok (.array (texts.map .string)) := by
  constructor
  · intro s sep
    exact ⟨_, call_split s sep, by rw [call_join, Text.join_split]⟩
  · intro c texts any apart
    have clear : ∀ t ∈ texts, Text.Clear (String.singleton c).toList t.toList := by
      intro t there
      rw [String.toList_singleton, Text.clear_singleton]
      exact apart t there
    refine ⟨_, call_join texts _, ?_⟩
    rw [call_split, Text.split_join (by simp) any clear]

end

/-- An empty text among the joined ones. -/
theorem call_split_join_gap :
    let texts := ["a", "", "b c"]
    ∃ joined, call "join" [.array (texts.map .string), .string ","] = .ok joined ∧
      call "split" [joined, .string ","] = .ok (.array (texts.map .string)) :=
  call_split_join.2 ',' ["a", "", "b c"] (by decide) (by decide)

end Automation.Expr.Builtin
